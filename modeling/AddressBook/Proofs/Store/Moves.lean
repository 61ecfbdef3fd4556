import AddressBook.Proofs.History.Recording
import AddressBook.Proofs.Store.Framing
import Mathlib.Logic.Relation

/-!
The moves of the store as far as contacts and their history go. Everything that the service does is
a sequence of them: a contact is created, changed or switched in or out of use, or nothing of the
kind happens.
-/
namespace AddressBook

open AddressBook.Action

/-- Contacts and their history are the same in both stores. -/
structure Apart (s s' : Store) : Prop where
  contacts : s'.tables.contacts = s.tables.contacts
  snapshots : s'.tables.snapshots = s.tables.snapshots
  journal : s'.journal = s.journal
  issued : s.issued ≤ s'.issued

/-- What may become of contacts and their history at once. -/
inductive Move (env : Conditions) (s s' : Store) : Prop where
  | apart (h : Apart s s')
  | created (fields : Fields) (upload : Option Uuid) (fits : env.Fits fields.values)
      (contacts : s'.tables.contacts =
        s.tables.contacts ++ [Contacts.newRow s fields upload env.now])
      (snapshots : s'.tables.snapshots = s.tables.snapshots)
      (journal : s'.journal = s.journal) (issued : s.issued ≤ s'.issued)
      (fresh : s.issued.contacts < s'.issued.contacts)
  | revised (c : Contact) (changes : Changes) (kept : Option Snapshot)
      (mem : c ∈ s.tables.contacts) (taken : History.ChangeTaken env s c changes)
      (recorded : History.Recorded env c changes s s' kept)
  | switched (c : Contact) (active : Bool) (mem : c ∈ s.tables.contacts)
      (contacts : s'.tables.contacts =
        (s.tables.setContact { c with active, updated := env.now }).contacts)
      (snapshots : s'.tables.snapshots = s.tables.snapshots)
      (journal : s'.journal = s.journal) (issued : s.issued ≤ s'.issued)

/-- One store comes from another by moves under the same conditions. -/
abbrev Evolves (env : Conditions) : Store → Store → Prop := Relation.ReflTransGen (Move env)

section

variable {α β : Type} {env : Conditions} {act : Action α} {f : α → Action β} {s s' : Store}
  {Q Q' : α → Store → Prop} {R : β → Store → Prop}

theorem Apart.trans {s₁ : Store} (h : Apart s s₁) (h' : Apart s₁ s') : Apart s s' :=
  ⟨h'.contacts.trans h.contacts, h'.snapshots.trans h.snapshots, h'.journal.trans h.journal,
    Issued.le_trans h.issued h'.issued⟩

theorem Apart.tried (s : Store) : Apart s { s with tried := s.tried + 1 } :=
  ⟨rfl, rfl, rfl, Issued.le_refl _⟩

theorem Move.issued_le (h : Move env s s') : s.issued ≤ s'.issued := by
  cases h with
  | apart h => exact h.issued
  | created _ _ _ _ _ _ issued _ => exact issued
  | revised _ _ _ _ _ recorded => exact recorded.issued
  | switched _ _ _ _ _ _ issued => exact issued

theorem Evolves.issued_le (h : Evolves env s s') : s.issued ≤ s'.issued := by
  induction h with
  | refl => exact Issued.le_refl _
  | tail _ hm ih => exact Issued.le_trans ih hm.issued_le

/-- An action leaves contacts and their history alone, whether it succeeds or not. -/
def Spares (act : Action α) : Prop := ∀ s, Apart s (after act s)

instance : GroupFree Apart where
  elsewhere h := ⟨h.contacts, h.snapshots, h.journal, h.issued⟩
  trans := Apart.trans
  back h := ⟨rfl, rfl, rfl, h.issued⟩

theorem Keeps.spares (h : Keeps Apart act) : Spares act := h

theorem keeps_change_apart {g : Tables → Tables} (hc : ∀ t, (g t).contacts = t.contacts)
    (hs : ∀ t, (g t).snapshots = t.snapshots) : Keeps Apart (change g) := by
  intro s
  exact ⟨hc _, hs _, rfl, Issued.le_refl _⟩

/-- An action that succeeds moves the store and reaches what is asked for; one that fails takes
back no identifier. -/
def Leads (env : Conditions) (act : Action α) (s : Store) (Q : α → Store → Prop) : Prop :=
  match act s with
  | .ok x s' => Evolves env s s' ∧ Q x s'
  | .error _ s' => s.issued ≤ s'.issued

theorem Leads.intro (hok : ∀ x s', act s = .ok x s' → Evolves env s s' ∧ Q x s')
    (herror : ∀ e s', act s = .error e s' → s.issued ≤ s'.issued) : Leads env act s Q := by
  unfold Leads
  cases ha : act s with
  | ok x s' => exact hok x s' ha
  | error e s' => exact herror e s' ha

theorem Leads.ok {x : α} (h : Leads env act s Q) (ha : act s = .ok x s') :
    Evolves env s s' ∧ Q x s' := by
  unfold Leads at h
  rwa [ha] at h

theorem Leads.error {e : Failure} (h : Leads env act s Q) (ha : act s = .error e s') :
    s.issued ≤ s'.issued := by
  unfold Leads at h
  rwa [ha] at h

theorem Leads.mono (h : Leads env act s Q) (hq : ∀ x s', Evolves env s s' → Q x s' → Q' x s') :
    Leads env act s Q' := by
  apply Leads.intro
  · intro x s' ha
    obtain ⟨he, hx⟩ := h.ok ha
    exact ⟨he, hq x s' he hx⟩
  · intro e s' ha
    exact h.error ha

theorem leads_pure {x : α} (h : Q x s) : Leads env (pure x) s Q := ⟨.refl, h⟩

theorem leads_throw (e : Failure) : Leads env (throw e) s Q := Issued.le_refl _

theorem Leads.bind (h : Leads env act s Q)
    (hf : ∀ x s', Evolves env s s' → Q x s' → Leads env (f x) s' R) :
    Leads env (act >>= f) s R := by
  apply Leads.intro
  · intro y s' ha
    obtain ⟨x, s₁, ha, hfx⟩ := bind_eq_ok.1 ha
    obtain ⟨he, hx⟩ := h.ok ha
    obtain ⟨he', hy⟩ := (hf x s₁ he hx).ok hfx
    exact ⟨he.trans he', hy⟩
  · intro e s' ha
    obtain ha | ⟨x, s₁, ha, hfx⟩ := bind_eq_error.1 ha
    · exact h.error ha
    · obtain ⟨he, hx⟩ := h.ok ha
      exact Issued.le_trans he.issued_le ((hf x s₁ he hx).error hfx)

theorem Spares.leads (h : Spares act) (s : Store) : Leads env act s fun _ s' => Apart s s' := by
  have hs := h s
  unfold after at hs
  apply Leads.intro
  · intro x s' ha
    rw [ha] at hs
    exact ⟨.single (.apart hs), hs⟩
  · intro e s' ha
    rw [ha] at hs
    exact hs.issued

/-- Taking back what a failure has left makes it harmless. -/
theorem Leads.recover (h : Leads env act s Q) :
    Leads env (recover (savepoint act)) s fun r s' =>
      match r with
      | .ok x => Q x s'
      | .error _ => Apart s s' := by
  cases ha : act s with
  | ok x s₁ =>
    have hr := recover_of_ok (savepoint_of_ok ha)
    unfold Leads
    rw [hr]
    exact h.ok ha
  | error e s₁ =>
    have hr := recover_of_error (savepoint_of_error ha)
    have hi := h.error ha
    have hs : Apart s { s₁ with tables := s.tables, journal := s.journal } := ⟨rfl, rfl, rfl, hi⟩
    unfold Leads
    rw [hr]
    exact ⟨.single (.apart hs), hs⟩

/-- A transaction that succeeds only moves the store, and one that fails leaves contacts and their
history as they were. -/
theorem Leads.transaction (h : Leads env act s Q) :
    match transaction env act s with
    | .ok _ s' => Evolves env s s'
    | .error _ s' => Apart s s' := by
  cases ht : Action.transaction env act s with
  | ok x s' =>
    obtain ⟨s₁, ha, -, rfl⟩ := transaction_eq_ok.1 ht
    exact (h.ok ha).1.tail (.apart (Apart.tried s₁))
  | error e s' =>
    obtain ⟨s₁, ha, rfl⟩ := savepoint_error ht
    have hi : s.issued ≤ s₁.issued := by
      obtain ha | ⟨x, s₂, ha, h₂⟩ := bind_eq_error.1 ha
      · exact h.error ha
      · obtain hc | ⟨_, s₃, -, h₃⟩ := bind_eq_error.1 h₂
        · rw [attempt_error hc]
          exact (h.ok ha).1.issued_le
        · cases h₃
    exact ⟨rfl, rfl, rfl, hi⟩

end

end AddressBook
