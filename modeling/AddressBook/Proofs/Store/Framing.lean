import AddressBook.Proofs.Store.Contacts

/-!
What actions keep. Most of what the service does has to do with a few kinds of rows only, and so it
keeps every relation of stores that does not look at those.
-/
namespace AddressBook

open AddressBook.Action

/-- No row was written. -/
structure Unwritten (s s' : Store) : Prop where
  tables : s'.tables = s.tables
  journal : s'.journal = s.journal
  issued : s.issued ≤ s'.issued

/-- Contacts, their history and uploads are the same in both stores. -/
structure Elsewhere (s s' : Store) : Prop where
  contacts : s'.tables.contacts = s.tables.contacts
  snapshots : s'.tables.snapshots = s.tables.snapshots
  uploads : s'.tables.uploads = s.tables.uploads
  journal : s'.journal = s.journal
  issued : s.issued ≤ s'.issued

/-- Groups and memberships are the same in both stores. -/
structure Grouped (s s' : Store) : Prop where
  groups : s'.tables.groups = s.tables.groups
  members : s'.tables.members = s.tables.members
  issued : s.issued ≤ s'.issued

/-- All but display preferences is the same in both stores. -/
structure Beside (s s' : Store) : Prop extends Elsewhere s s', Grouped s s'

/-- All but the values of contacts and their history is the same in both stores. -/
structure Rewritten (s s' : Store) : Prop extends Grouped s s' where
  ids : s'.tables.contacts.map (·.id) = s.tables.contacts.map (·.id)
  uploads : s'.tables.uploads = s.tables.uploads
  displays : s'.tables.displays = s.tables.displays

/-- A relation of stores that looks at rows and the journal only, that composes, and that outlasts
the taking back of writes. -/
class Frame (R : Store → Store → Prop) : Prop where
  unwritten : ∀ {s s'}, Unwritten s s' → R s s'
  trans : ∀ {s s₁ s'}, R s s₁ → R s₁ s' → R s s'
  back : ∀ {s s'}, R s s' → R s { s' with tables := s.tables, journal := s.journal }

/-- A frame that does not look at display preferences. -/
class DisplayFree (R : Store → Store → Prop) : Prop extends Frame R where
  beside : ∀ {s s'}, Beside s s' → R s s'

/-- A frame that looks at contacts, their history and uploads at most. -/
class GroupFree (R : Store → Store → Prop) : Prop extends DisplayFree R where
  elsewhere : ∀ {s s'}, Elsewhere s s' → R s s'
  beside h := elsewhere h.toElsewhere
  unwritten h := elsewhere ⟨by rw [h.tables], by rw [h.tables], by rw [h.tables], h.journal,
    h.issued⟩

/-- A frame that does not look at the values of contacts and their history. -/
class ValueFree (R : Store → Store → Prop) : Prop extends Frame R where
  rewritten : ∀ {s s'}, Rewritten s s' → R s s'

/-- An action keeps a relation to the store that it starts from, whether it succeeds or not. -/
def Keeps {α : Type} (R : Store → Store → Prop) (act : Action α) : Prop := ∀ s, R s (after act s)

theorem Unwritten.refl (s : Store) : Unwritten s s := ⟨rfl, rfl, Issued.le_refl _⟩

section

variable {α β : Type} {env : Conditions} {act : Action α} {f : α → Action β}
  {R : Store → Store → Prop} [Frame R]

theorem Keeps.of_after (h : ∀ s, after act s = s) : Keeps R act := by
  intro s
  rw [h s]
  exact Frame.unwritten (Unwritten.refl s)

theorem keeps_pure (x : α) : Keeps R (pure x : Action α) := .of_after fun _ => rfl

theorem keeps_throw (e : Failure) : Keeps R (throw e : Action α) := .of_after fun _ => rfl

theorem keeps_tables : Keeps R tables := .of_after fun _ => rfl

theorem keeps_reports : Keeps R reports := .of_after fun _ => rfl

theorem keeps_get (id : Uuid) : Keeps R (Contacts.get id) := .of_after (Contacts.after_get id)

theorem Action.Checks.keeps {act : Action Unit} {p : Prop} (h : Checks act p) : Keeps R act :=
  .of_after h.after

theorem keeps_attempt (w : Write) : Keeps R (attempt env w) := by
  intro s
  rw [after_attempt]
  exact Frame.unwritten ⟨rfl, rfl, Issued.le_refl _⟩

theorem keeps_report (p : Progress) : Keeps R (report p) := by
  intro s
  exact Frame.unwritten ⟨rfl, rfl, Issued.le_refl _⟩

theorem keeps_newContactId : Keeps R newContactId := by
  intro s
  exact Frame.unwritten ⟨rfl, rfl, Nat.le_succ _, Nat.le_refl _, Nat.le_refl _, Nat.le_refl _⟩

theorem keeps_newGroupId : Keeps R newGroupId := by
  intro s
  exact Frame.unwritten ⟨rfl, rfl, Nat.le_refl _, Nat.le_refl _, Nat.le_succ _, Nat.le_refl _⟩

theorem keeps_newUploadId : Keeps R newUploadId := by
  intro s
  exact Frame.unwritten ⟨rfl, rfl, Nat.le_refl _, Nat.le_refl _, Nat.le_refl _, Nat.le_succ _⟩

theorem keeps_ofExcept {ε : Type} (failure : ε → Failure) (x : Except ε α) :
    Keeps R (ofExcept failure x) := by
  cases x with
  | ok x => exact keeps_pure x
  | error e => exact keeps_throw _

theorem Keeps.bind (h : Keeps R act) (hf : ∀ x, Keeps R (f x)) : Keeps R (act >>= f) := by
  intro s
  have hs := h s
  unfold after at hs ⊢
  rw [bind_run]
  cases ha : act s with
  | ok x s₁ =>
    rw [ha] at hs
    exact Frame.trans hs (hf x s₁)
  | error e s₁ =>
    rw [ha] at hs
    exact hs

theorem Keeps.map (h : Keeps R act) (g : α → β) : Keeps R (do return g (← act)) :=
  h.bind fun _ => keeps_pure _

omit [Frame R] in
theorem Keeps.ite {c : Prop} [Decidable c] {act' : Action α} (h : Keeps R act)
    (h' : Keeps R act') : Keeps R (if c then act else act') := by
  split
  · exact h
  · exact h'

theorem Keeps.savepoint (h : Keeps R act) : Keeps R (savepoint act) := by
  intro s
  have hs := h s
  unfold after at hs ⊢
  cases ha : act s with
  | ok x s₁ =>
    rw [ha] at hs
    rwa [savepoint_of_ok ha]
  | error e s₁ =>
    rw [ha] at hs
    rw [savepoint_of_error ha]
    exact Frame.back hs

omit [Frame R] in
theorem Keeps.recover (h : Keeps R act) : Keeps R (recover act) := by
  intro s
  have hs := h s
  unfold after at hs ⊢
  cases ha : act s with
  | ok x s₁ =>
    rw [ha] at hs
    rwa [recover_of_ok ha]
  | error e s₁ =>
    rw [ha] at hs
    rwa [recover_of_error ha]

theorem Keeps.transaction (h : Keeps R act) : Keeps R (transaction env act) :=
  (h.bind fun _ => (keeps_attempt _).bind fun _ => keeps_pure _).savepoint

end

section

variable {R : Store → Store → Prop} {g : Tables → Tables}

/-- A change of groups, memberships and display preferences. -/
theorem keeps_change [GroupFree R] (hc : ∀ t, (g t).contacts = t.contacts)
    (hs : ∀ t, (g t).snapshots = t.snapshots) (hu : ∀ t, (g t).uploads = t.uploads) :
    Keeps R (change g) := by
  intro s
  exact GroupFree.elsewhere ⟨hc _, hs _, hu _, rfl, Issued.le_refl _⟩

/-- A change of display preferences. -/
theorem keeps_change_displays [DisplayFree R] (f : Tables → List Display) :
    Keeps R (change fun t => { t with displays := f t }) := by
  intro s
  exact DisplayFree.beside ⟨⟨rfl, rfl, rfl, rfl, Issued.le_refl _⟩, rfl, rfl⟩

end

end AddressBook
