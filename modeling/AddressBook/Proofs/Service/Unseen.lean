import Mathlib.Data.List.Forall2
import AddressBook.Proofs.History.Versions
import AddressBook.Proofs.Store.Parallel

/-!
Snapshots that are refused go unseen. Changes of contacts, imports and cleanups come to the same
contacts and the same answers, whichever snapshots the store refuses on the way.
-/
namespace AddressBook

open AddressBook.Action

variable {env env' : Conditions} {s s' : Store}

theorem Tables.contacts_eq {t t' : Tables} (h : t.unfiled = t'.unfiled) :
    t.contacts = t'.contacts := by
  rw [show t.contacts = t.unfiled.contacts from rfl, h]
  rfl

/-! ### Contacts and their changes -/

theorem parallel_get (id : Uuid) : Parallel Eq (Contacts.get id) (Contacts.get id) := by
  apply parallel_tables.bind
  intro t t' ht
  rw [Tables.contact?, Tables.contact?, Tables.contacts_eq ht]
  split
  · exact parallel_pure rfl
  · exact parallel_throw _

theorem parallel_create (h : env.Agree env') (fields : Fields) (upload : Option Uuid) :
    Parallel Eq (Contacts.create env fields upload) (Contacts.create env' fields upload) := by
  unfold Contacts.create Contacts.insert
  rw [h.now]
  refine (parallel_attempt h rfl).seq fun _ => parallel_newContactId.seq fun id => ?_
  refine (parallel_bindInstant _).seq fun _ => (parallel_bindTexts h _).seq fun _ => ?_
  refine (parallel_bindInteger _).seq fun _ => Parallel.seq ?_ fun _ => parallel_pure rfl
  exact parallel_change fun _ => rfl

/-- The try to keep a contact's values shows in nothing but snapshots. -/
theorem keep_unfiled (env : Conditions) (c : Contact) (s : Store) : ∃ kept s',
    History.keep env c s = .ok kept s' ∧ s'.unfiled = { s.unfiled with tried := s.tried + 1 } := by
  by_cases h : History.SnapshotTaken env s c
  · have hrun := recover_of_ok (History.create_of_taken h)
    exact ⟨_, _, bind_of_ok hrun, rfl⟩
  · cases hc : Snapshots.create env c.id c.version c.fields env.now s with
    | ok p s' => exact absurd (History.of_create hc) h
    | error e s' =>
      obtain ⟨n, -, rfl⟩ := History.create_error hc
      exact ⟨_, _, bind_of_ok (recover_of_error hc), rfl⟩

theorem parallel_keep (env env' : Conditions) (c : Contact) :
    Parallel (fun _ _ => True) (History.keep env c) (History.keep env' c) := by
  intro s s' hs
  obtain ⟨kept, t, hk, ht⟩ := keep_unfiled env c s
  obtain ⟨kept', t', hk', ht'⟩ := keep_unfiled env' c s'
  refine Or.inl ⟨kept, t, kept', t', hk, hk', trivial, ?_⟩
  unfold Alike
  rw [ht, ht', show s.unfiled = s'.unfiled from hs, hs.tried]

theorem parallel_applyChanges (h : env.Agree env') (c : Contact) (changes : Changes)
    (version : Int) :
    Parallel Eq (Contacts.applyChanges env c changes version)
      (Contacts.applyChanges env' c changes version) := by
  unfold Contacts.applyChanges
  rw [h.now]
  refine (parallel_attempt h rfl).seq fun _ => (parallel_bindTexts h _).seq fun _ => ?_
  refine (parallel_bindInteger _).seq fun _ => Parallel.seq ?_ fun _ => parallel_pure rfl
  exact parallel_change fun _ => rfl

theorem parallel_record (h : env.Agree env') (c : Contact) (changes : Changes) :
    Parallel Eq (History.record env c changes) (History.record env' c changes) := by
  refine (parallel_keep env env' c).bind fun kept kept' _ => ?_
  refine (parallel_applyChanges h c changes _).seq fun c' => ?_
  exact (parallel_note _ _).seq fun _ => parallel_pure rfl

theorem parallel_setActive (h : env.Agree env') (id : Uuid) (active : Bool) :
    Parallel Eq (Contacts.setActive env id active) (Contacts.setActive env' id active) := by
  unfold Contacts.setActive
  rw [h.now]
  refine (parallel_get id).seq fun c => (parallel_attempt h rfl).seq fun _ => ?_
  refine Parallel.ite (parallel_pure rfl) (Parallel.seq ?_ fun _ => parallel_pure rfl)
  exact parallel_change fun _ => rfl

/-! ### Cleanup -/

theorem parallel_apply (h : env.Agree env') (label : String) (r : Cleanup.Report) (c : Contact)
    (changes : Changes) :
    Parallel Eq (Cleanup.apply env label r c changes) (Cleanup.apply env' label r c changes) := by
  unfold Cleanup.apply
  split
  · exact parallel_pure rfl
  · apply (parallel_record h c _).savepoint.recover.seq
    rintro (e | c')
    · exact parallel_pure rfl
    · exact parallel_pure rfl

theorem parallel_applyEach (h : env.Agree env') (label : String) (rule : Fields → Changes)
    (cs : List Contact) (r : Cleanup.Report) :
    Parallel Eq (Cleanup.applyEach env label rule cs r)
      (Cleanup.applyEach env' label rule cs r) := by
  induction cs generalizing r with
  | nil => exact parallel_pure rfl
  | cons c rest ih => exact (parallel_apply h label r c _).seq ih

/-- A cleanup of those contacts that a test picks out. -/
theorem parallel_cleaning (h : env.Agree env') (label : String) (rule : Fields → Changes)
    (p : Contact → Bool) :
    Parallel Eq
      (do
        let found := (← tables).contacts.filter p
        Cleanup.applyEach env label rule found {})
      (do
        let found := (← tables).contacts.filter p
        Cleanup.applyEach env' label rule found {}) := by
  apply parallel_tables.bind
  intro t t' ht
  dsimp only
  rw [Tables.contacts_eq ht]
  exact parallel_applyEach h label rule _ {}

theorem parallel_addresses (h : env.Agree env') :
    Parallel Eq (Cleanup.addresses env) (Cleanup.addresses env') := by
  have hfinds : Cleanup.hasEscape env = Cleanup.hasEscape env' := by
    funext a
    cases a with
    | none => rfl
    | some a => simp only [Cleanup.hasEscape, h.dialect]
  unfold Cleanup.addresses
  rw [hfinds]
  exact parallel_cleaning h _ _ _

theorem parallel_dropDuplicate (h : env.Agree env') (r : Cleanup.Report) (c : Contact)
    (mail : Text) :
    Parallel Eq (Cleanup.dropDuplicate env r c mail) (Cleanup.dropDuplicate env' r c mail) := by
  apply (parallel_setActive h c.id false).savepoint.recover.seq
  rintro (e | c')
  · exact parallel_pure rfl
  · exact parallel_pure rfl

theorem parallel_dropEach (h : env.Agree env') (cs : List Contact) (seen : List Text)
    (r : Cleanup.Report) :
    Parallel Eq (Cleanup.dropEach env cs seen r) (Cleanup.dropEach env' cs seen r) := by
  induction cs generalizing seen r with
  | nil => exact parallel_pure rfl
  | cons c rest ih =>
    simp only [Cleanup.dropEach]
    refine Parallel.ite (ih seen r) (Parallel.ite ?_ (ih _ r))
    exact (parallel_dropDuplicate h r c _).seq fun r' => ih seen r'

theorem parallel_duplicates (h : env.Agree env') :
    Parallel Eq (Cleanup.duplicates env) (Cleanup.duplicates env') := by
  apply parallel_tables.bind
  intro t t' ht
  rw [Cleanup.withEmail, Cleanup.withEmail, Tables.contacts_eq ht]
  exact parallel_dropEach h _ _ _

theorem parallel_cleanup (h : env.Agree env') (kind : Cleanup.Kind) :
    Parallel Eq (Cleanup.run env kind) (Cleanup.run env' kind) := by
  cases kind with
  | addresses => exact parallel_addresses h
  | emptyFields => exact parallel_cleaning h _ _ _
  | duplicates => exact parallel_duplicates h
  | general =>
    refine (parallel_addresses h).seq fun a => ?_
    refine (parallel_cleaning h _ _ _).seq fun b => ?_
    refine (parallel_duplicates h).seq fun c => ?_
    exact (parallel_cleaning h _ _ _).seq fun d => parallel_pure rfl

/-! ### Import -/

theorem parallel_createUpload (h : env.Agree env') (filename : Text) (total : Int) :
    Parallel Eq (Uploads.create env filename total) (Uploads.create env' filename total) := by
  unfold Uploads.create
  rw [h.now]
  refine (parallel_attempt h rfl).seq fun _ => parallel_newUploadId.seq fun id => ?_
  exact (parallel_change fun _ => rfl).seq fun _ => parallel_pure rfl

theorem parallel_setProgress (h : env.Agree env') (u : Upload) (processed : Int)
    (status : Option UploadStatus) :
    Parallel Eq (Uploads.setProgress env u processed status)
      (Uploads.setProgress env' u processed status) := by
  unfold Uploads.setProgress
  rw [h.now]
  refine (parallel_report _).seq fun _ => Parallel.ite (parallel_pure rfl) ?_
  refine (parallel_attempt h rfl).seq fun _ => Parallel.seq ?_ fun _ => parallel_pure rfl
  exact parallel_change fun _ => rfl

theorem parallel_insertRows (h : env.Agree env') (upload : Uuid) (rows : List Fields) :
    Parallel Eq (Csv.insertRows env upload rows) (Csv.insertRows env' upload rows) := by
  induction rows with
  | nil => exact parallel_pure rfl
  | cons row rest ih => exact (parallel_create h row (some upload)).seq fun _ => ih

theorem parallel_insertBatches (h : env.Agree env') (u : Upload) (done : Int)
    (batches : List (List Fields)) :
    Parallel Eq (Csv.insertBatches env u done batches) (Csv.insertBatches env' u done batches) := by
  induction batches generalizing u done with
  | nil => exact parallel_pure rfl
  | cons batch rest ih =>
    refine (parallel_insertRows h u.id batch).seq fun _ => ?_
    exact (parallel_setProgress h u _ none).seq fun u' => ih u' _

theorem parallel_import (h : env.Agree env') (filename content : Text) (size : Int) :
    Parallel Eq (Csv.run env filename content size) (Csv.run env' filename content size) := by
  refine (parallel_ofExcept _ _).seq fun rows => ?_
  refine (parallel_createUpload h _ _).seq fun u => parallel_reports.seq fun before => ?_
  have hall : Parallel Eq (Csv.insertAll env u size rows) (Csv.insertAll env' u size rows) := by
    apply Parallel.savepoint
    exact (parallel_ofExcept _ _).seq fun parts => parallel_insertBatches h u 0 parts
  apply hall.recover.seq
  rintro (e | ⟨u', done⟩)
  · refine parallel_reports.seq fun after => Parallel.ite ?_ (parallel_throw _)
    exact parallel_setProgress h u 0 _
  · exact parallel_setProgress h u' done _

/-! ### Operations and runs -/

/-- Whether an operation changes contacts without a look at their snapshots. -/
def Operation.isEdit : Operation → Bool
  | createContact _ | updateContact _ _ | deleteContact _ | reactivateContact _
  | importCsv _ _ _ | cleanup _ => true
  | _ => false

theorem Parallel.answer {α : Type} {act act' : Action α} (h : Parallel Eq act act')
    (answer : α → Answer) :
    Parallel Eq (do return answer (← act)) (do return answer (← act')) :=
  h.seq fun _ => parallel_pure rfl

theorem parallel_run (h : env.Agree env') (op : Operation) (hop : op.isEdit) :
    Parallel Eq (op.run env) (op.run env') := by
  cases op with
  | createContact fields => exact (parallel_create h fields none).answer _
  | updateContact id changes =>
    exact (parallel_get id).seq fun c => (parallel_record h c changes).answer _
  | deleteContact id => exact (parallel_setActive h id false).answer _
  | reactivateContact id => exact (parallel_setActive h id true).answer _
  | importCsv filename content size =>
    refine Parallel.answer ?_ _
    unfold Operation.importBytes
    split
    · exact parallel_throw _
    · exact parallel_import h _ _ _
  | cleanup label =>
    show Parallel Eq (Operation.clean env label) (Operation.clean env' label)
    unfold Operation.clean
    split
    · exact parallel_throw _
    · exact (parallel_cleanup h _).answer _
  | _ => cases hop

/-- Two steps are the same but for the snapshots that are refused in them. -/
structure Step.Agree (x y : Step) : Prop where
  operation : x.operation = y.operation
  env : x.env.Agree y.env

theorem alike_next {x y : Step} (h : x.Agree y) (hx : x.operation.isEdit) (hs : Alike s s') :
    s.answer x = s'.answer y ∧ Alike (s.next x) (s'.next y) := by
  have hrun := (parallel_run h.env x.operation hx).transaction h.env
  unfold Store.answer Store.next Operation.perform after
  rw [← h.operation]
  obtain ⟨a, t, a', t', ha, ha', rfl, ht⟩ | ⟨e, t, t', ha, ha', ht⟩ := hrun s s' hs
  · rw [ha, ha']
    exact ⟨rfl, ht⟩
  · rw [ha, ha']
    exact ⟨rfl, ht⟩

theorem alike_run {xs ys : List Step} (h : List.Forall₂ Step.Agree xs ys)
    (hx : ∀ x ∈ xs, x.operation.isEdit) (hs : Alike s s') :
    s.answers xs = s'.answers ys ∧ Alike (s.run xs) (s'.run ys) := by
  induction h generalizing s s' with
  | nil => exact ⟨rfl, hs⟩
  | @cons x y xs ys hxy _ ih =>
    obtain ⟨hanswer, hnext⟩ := alike_next hxy (hx x (List.mem_cons_self ..)) hs
    obtain ⟨hanswers, hrun⟩ := ih (fun z hz => hx z (List.mem_cons_of_mem _ hz)) hnext
    refine ⟨?_, hrun⟩
    rw [Store.answers, Store.answers, hanswer, hanswers]

/-- Which snapshots are refused in a run of edits shows in no contact and in no answer. -/
theorem refusals_unseen (s : Store) {xs ys : List Step} (h : List.Forall₂ Step.Agree xs ys)
    (hx : ∀ x ∈ xs, x.operation.isEdit) :
    (s.run xs).tables.contacts = (s.run ys).tables.contacts ∧
      (s.run xs).tables.uploads = (s.run ys).tables.uploads ∧ s.answers xs = s.answers ys := by
  obtain ⟨hanswers, hrun⟩ := alike_run h hx (s := s) rfl
  exact ⟨hrun.contacts, hrun.view (fun u => u.tables.uploads) fun _ => rfl, hanswers⟩

/-- The same changes as in `refusedOnce`, without a refusal. -/
def refusedNever : List Step := refusedOnce.map fun x => ⟨.fair x.env.now, x.operation⟩

theorem refusals_unseen_refusedOnce :
    (Store.run {} refusedOnce).tables.snapshots ≠ (Store.run {} refusedNever).tables.snapshots ∧
      (Store.run {} refusedOnce).tables.contacts = (Store.run {} refusedNever).tables.contacts ∧
      (Store.run {} refusedOnce).tables.uploads = (Store.run {} refusedNever).tables.uploads ∧
      Store.answers {} refusedOnce = Store.answers {} refusedNever := by
  refine ⟨by decide, refusals_unseen {} ?_ (by decide)⟩
  refine .cons ⟨rfl, rfl, rfl, fun _ _ _ => rfl⟩ (.cons ⟨rfl, rfl, rfl, ?_⟩ (.cons ?_ .nil))
  · rintro n w hw
    exact if_neg fun he => by simp [he, Write.isSnapshot] at hw
  · exact ⟨rfl, rfl, rfl, fun _ _ _ => rfl⟩

end AddressBook
