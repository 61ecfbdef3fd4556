import AddressBook.Proofs.Service.Elsewhere
import AddressBook.Proofs.History.Recording

/-!
Changes of contacts, restoring and cleanup: they write nothing but the values of contacts and their
history.
-/
namespace AddressBook

open AddressBook.Action

variable {env : Conditions} {R : Store → Store → Prop} [ValueFree R]

/-! ### Changes of contacts -/

theorem keeps_setContact (c : Contact) : Keeps R (change (·.setContact c)) := by
  intro s
  apply ValueFree.rewritten
  exact ⟨⟨rfl, rfl, Issued.le_refl _⟩, Tables.setContact_ids s.tables c, rfl, rfl⟩

theorem keeps_note (r : Revision) : Keeps R (note r) := by
  intro s
  exact ValueFree.rewritten ⟨⟨rfl, rfl, Issued.le_refl _⟩, rfl, rfl, rfl⟩

theorem keeps_keep (c : Contact) : Keeps R (History.keep env c) := by
  intro s
  obtain ⟨kept, s', h, hs'⟩ := History.keep_run env c s
  rw [after, h]
  apply ValueFree.rewritten
  exact ⟨⟨by rw [hs'.tables], by rw [hs'.tables], hs'.issued⟩, by rw [hs'.tables],
    by rw [hs'.tables], by rw [hs'.tables]⟩

theorem keeps_applyChanges (c : Contact) (changes : Changes) (version : Int) :
    Keeps R (Contacts.applyChanges env c changes version) :=
  (keeps_attempt _).bind fun _ => (bindTexts_checks _).keeps.bind fun _ =>
    (bindInteger_checks _).keeps.bind fun _ => (keeps_setContact _).bind fun _ => keeps_pure _

theorem keeps_record (c : Contact) (changes : Changes) :
    Keeps R (History.record env c changes) :=
  (keeps_keep c).bind fun _ => (keeps_applyChanges c changes _).bind fun _ =>
    (keeps_note _).bind fun _ => keeps_pure _

theorem keeps_setActive (id : Uuid) (active : Bool) :
    Keeps R (Contacts.setActive env id active) := by
  refine (keeps_get id).bind fun c => (keeps_attempt _).bind fun _ =>
    Keeps.ite (keeps_pure _) ?_
  exact (keeps_setContact _).bind fun _ => keeps_pure _

/-! ### Restoring -/

theorem keeps_restore (id : Uuid) (version : Int) :
    Keeps R (History.restore env id version) := by
  refine (keeps_get id).bind fun c => (keeps_find? id version).bind fun p => ?_
  cases p with
  | none => exact keeps_throw _
  | some p => exact keeps_record c _

theorem keeps_restoreTo (time : Instant) (c : Contact) :
    Keeps R (History.restoreTo env time c) := by
  refine (keeps_latest? c.id time).bind fun p => ?_
  cases p with
  | none => exact keeps_pure _
  | some p => exact Keeps.ite (keeps_pure _) ((keeps_record c _).bind fun _ => keeps_pure _)

theorem keeps_restoreEach (time : Instant) (cs : List Contact) (n : Nat) :
    Keeps R (History.restoreEach env time cs n) := by
  induction cs generalizing n with
  | nil => exact keeps_pure _
  | cons c rest ih =>
    refine (keeps_restoreTo time c).savepoint.recover.bind fun r => ?_
    rcases r with e | changed
    · exact ih n
    · cases changed with
      | false => exact ih n
      | true => exact ih (n + 1)

theorem keeps_restoreAll (time : Instant) : Keeps R (History.restoreAll env time) :=
  (bindInstant_checks time).keeps.bind fun _ => keeps_tables.bind fun _ =>
    keeps_restoreEach time _ 0

/-! ### Cleanup -/

theorem keeps_apply (label : String) (r : Cleanup.Report) (c : Contact) (changes : Changes) :
    Keeps R (Cleanup.apply env label r c changes) := by
  unfold Cleanup.apply
  split
  · exact keeps_pure _
  · refine (keeps_record c _).savepoint.recover.bind fun r => ?_
    cases r with
    | error e => exact keeps_pure _
    | ok c' => exact keeps_pure _

theorem keeps_applyEach (label : String) (rule : Fields → Changes) (cs : List Contact)
    (r : Cleanup.Report) : Keeps R (Cleanup.applyEach env label rule cs r) := by
  induction cs generalizing r with
  | nil => exact keeps_pure _
  | cons c rest ih => exact (keeps_apply label r c _).bind fun r' => ih r'

theorem keeps_cleaning (label : String) (rule : Fields → Changes) (p : Contact → Bool) :
    Keeps R (do
      let found := (← tables).contacts.filter p
      Cleanup.applyEach env label rule found {}) :=
  keeps_tables.bind fun _ => keeps_applyEach label rule _ {}

theorem keeps_dropDuplicate (r : Cleanup.Report) (c : Contact) (mail : Text) :
    Keeps R (Cleanup.dropDuplicate env r c mail) := by
  refine (keeps_setActive c.id false).savepoint.recover.bind fun r => ?_
  cases r with
  | error e => exact keeps_pure _
  | ok c' => exact keeps_pure _

theorem keeps_dropEach (cs : List Contact) (seen : List Text) (r : Cleanup.Report) :
    Keeps R (Cleanup.dropEach env cs seen r) := by
  induction cs generalizing seen r with
  | nil => exact keeps_pure _
  | cons c rest ih =>
    simp only [Cleanup.dropEach]
    refine Keeps.ite (ih seen r) (Keeps.ite ?_ (ih _ r))
    exact (keeps_dropDuplicate r c _).bind fun r' => ih seen r'

theorem keeps_duplicates : Keeps R (Cleanup.duplicates env) :=
  keeps_tables.bind fun _ => keeps_dropEach _ _ _

theorem keeps_cleanup (kind : Cleanup.Kind) : Keeps R (Cleanup.run env kind) := by
  cases kind with
  | addresses => exact keeps_cleaning _ _ _
  | emptyFields => exact keeps_cleaning _ _ _
  | duplicates => exact keeps_duplicates
  | general =>
    exact Keeps.bind (keeps_cleaning _ _ _) fun _ => Keeps.bind (keeps_cleaning _ _ _) fun _ =>
      keeps_duplicates.bind fun _ => Keeps.bind (keeps_cleaning _ _ _) fun _ => keeps_pure _

theorem keeps_clean (label : Text) : Keeps R (Operation.clean env label) := by
  unfold Operation.clean
  split
  · exact keeps_throw _
  · exact (keeps_cleanup _).bind fun _ => keeps_pure _

/-! ### Operations -/

/-- An operation that writes the values of contacts, their history and display preferences at
most. -/
theorem keeps_rewriting [DisplayFree R] (op : Operation) (ha : op.adds = false)
    (hg : op.regroups = false) : Keeps R (op.run env) := by
  cases op with
  | updateContact id changes => exact (keeps_get id).bind fun c => (keeps_record c changes).map _
  | deleteContact id => exact (keeps_setActive id false).map _
  | reactivateContact id => exact (keeps_setActive id true).map _
  | restoreVersion id version => exact (keeps_restore id version).map _
  | restoreAll time => exact (keeps_restoreAll time).map _
  | cleanup label => exact keeps_clean label
  | _ => exact keeps_beside _ ha rfl hg

end AddressBook
