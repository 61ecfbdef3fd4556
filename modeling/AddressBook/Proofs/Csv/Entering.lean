import AddressBook.Proofs.Csv.Importing
import AddressBook.Proofs.Store.Outcomes

/-!
How an import gets on. The rows of a document are entered one by one and become contacts in their
order; the first row that the store does not take is as far as they get. In between, the upload row
says how far that is.
-/
namespace AddressBook

open AddressBook.Action

/-- The store takes a row as a new contact, if it comes at a certain try. -/
structure Conditions.Takes (env : Conditions) (n : Nat) (row : Fields) : Prop where
  unrefused : env.refusal n (.insertContact row) = none
  dated : env.now.isDated
  fits : env.Fits row.values

/-- The store takes rows one after another, the first of them at a certain try. -/
def Conditions.TakesAll (env : Conditions) (n : Nat) (rows : List Fields) : Prop :=
  ∀ i row, rows[i]? = some row → env.Takes (n + i) row

/-- The contacts that rows become, where a number of contacts had their identifiers before. -/
def Csv.newContacts (issued : Nat) (upload : Uuid) (now : Instant) (rows : List Fields) :
    List Contact :=
  rows.mapIdx fun i row => ⟨.numbered 0xc0 (issued + i + 1), row, 1, true, some upload, now, now⟩

/-- The store with rows entered. -/
def Store.entered (s : Store) (upload : Uuid) (now : Instant) (rows : List Fields) : Store :=
  { s with
    tables := { s.tables with
      contacts := s.tables.contacts ++ Csv.newContacts s.issued.contacts upload now rows }
    issued := { s.issued with contacts := s.issued.contacts + rows.length }
    tried := s.tried + rows.length }

/-- The upload row of the next import, at some point of it. -/
def Csv.newUpload (s : Store) (filename : Text) (now : Instant) (total processed : Int)
    (status : UploadStatus) : Upload :=
  ⟨.numbered 0xd0 (s.issued.uploads + 1), filename, total, processed, status, now, now⟩

/-- The tables with one more upload, and with rows as contacts that come from it. -/
def Csv.imported (base : Store) (u : Upload) (now : Instant) (rows : List Fields) : Tables :=
  { base.tables with
    contacts := base.tables.contacts ++ Csv.newContacts base.issued.contacts u.id now rows
    uploads := base.tables.uploads ++ [u] }

/-- An import has brought a store so far as to hold certain rows, and nothing else has changed. -/
structure Csv.Reached (base : Store) (u : Upload) (now : Instant) (rows : List Fields) (s : Store) :
    Prop where
  tables : s.tables = Csv.imported base u now rows
  journal : s.journal = base.journal

variable {env : Conditions} {base s : Store} {n : Nat} {row : Fields} {rows : List Fields}
  {upload : Uuid} {now : Instant} {u : Upload} {filename : Text} {total p q : Int}
  {status status' : UploadStatus}

theorem Conditions.takesAll_nil : env.TakesAll n [] := nofun

theorem Conditions.takesAll_cons :
    env.TakesAll n (row :: rows) ↔ env.Takes n row ∧ env.TakesAll (n + 1) rows := by
  constructor
  · intro h
    refine ⟨h 0 row rfl, fun i x hx => ?_⟩
    rw [Nat.add_assoc, Nat.add_comm 1]
    exact h (i + 1) x hx
  · rintro ⟨hrow, hrest⟩ (_ | i) x hx
    · cases hx
      exact hrow
    · rw [Nat.add_comm i, ← Nat.add_assoc]
      exact hrest i x hx

theorem Conditions.Calm.takesAll (h : env.Calm) (hd : env.now.isDated)
    (hfits : ∀ row ∈ rows, env.Fits row.values) (n : Nat) : env.TakesAll n rows :=
  fun _ row hrow => ⟨h _ _, hd, hfits row (List.mem_of_getElem? hrow)⟩

theorem Csv.newContacts_append (n : Nat) (upload : Uuid) (now : Instant) (rows rest : List Fields) :
    newContacts n upload now (rows ++ rest) =
      newContacts n upload now rows ++ newContacts (n + rows.length) upload now rest := by
  unfold newContacts
  rw [List.mapIdx_append]
  have hplace (i : Nat) : n + (i + rows.length) = n + rows.length + i := by omega
  simp only [hplace]

theorem Store.entered_nil (s : Store) (upload : Uuid) (now : Instant) :
    s.entered upload now [] = s := by
  simp [Store.entered, Csv.newContacts]

theorem Store.entered_append (s : Store) (upload : Uuid) (now : Instant) (rows rest : List Fields) :
    s.entered upload now (rows ++ rest) = (s.entered upload now rows).entered upload now rest := by
  simp only [Store.entered, Csv.newContacts_append, List.length_append, List.append_assoc,
    Nat.add_assoc]

namespace Contacts

/-! ### One row -/

theorem create_of_takes (h : env.Takes s.tried row) :
    create env row (some upload) s =
      .ok (newRow s row (some upload) env.now) (s.entered upload env.now [row]) := by
  unfold create insert
  rw [bind_of_ok (attempt_of_none h.unrefused), bind_of_ok (newContactId_run _),
    bind_of_ok ((bindInstant_checks _).ok h.dated _), bind_of_ok ((bindTexts_checks _).ok h.fits _),
    bind_of_ok ((bindInteger_checks _).ok (by decide) _)]
  rfl

/-- A row that is not taken ends the import without a progress report. -/
theorem create_of_not_takes (upload : Uuid) (h : ¬ env.Takes s.tried row) :
    ∃ e s', create env row (some upload) s = .error e s' ∧ s'.progress = s.progress := by
  unfold create insert
  cases hr : env.refusal s.tried (.insertContact row) with
  | some reason =>
    have hrefused : attempt env (.insertContact row) s =
        .error (.storage reason) { s with tried := s.tried + 1 } := by
      rw [attempt_run, hr]
    exact ⟨_, _, bind_of_error hrefused, rfl⟩
  | none =>
    rw [bind_of_ok (attempt_of_none hr), bind_of_ok (newContactId_run _)]
    by_cases hd : env.now.isDated
    · rw [bind_of_ok ((bindInstant_checks _).ok hd _)]
      have hchecks : Checks (bindTexts env row.values) (env.Fits row.values) := bindTexts_checks _
      obtain ⟨e, he⟩ := (hchecks _).2 fun hfits => h ⟨hr, hd, hfits⟩
      exact ⟨e, _, bind_of_error he, rfl⟩
    · obtain ⟨e, he⟩ := (bindInstant_checks env.now _).2 hd
      exact ⟨e, _, bind_of_error he, rfl⟩

end Contacts

namespace Csv

/-! ### Several rows -/

theorem insertRows_of_takesAll (upload : Uuid) (h : env.TakesAll s.tried rows) :
    insertRows env upload rows s = .ok () (s.entered upload env.now rows) := by
  induction rows generalizing s with
  | nil => rw [Store.entered_nil, insertRows, pure_run]
  | cons row rest ih =>
    obtain ⟨hrow, hrest⟩ := Conditions.takesAll_cons.1 h
    rw [insertRows, bind_of_ok (Contacts.create_of_takes hrow), ih hrest, ← Store.entered_append]
    rfl

theorem insertRows_of_not_takesAll (upload : Uuid) (h : ¬ env.TakesAll s.tried rows) :
    ∃ e s', insertRows env upload rows s = .error e s' ∧ s'.progress = s.progress := by
  induction rows generalizing s with
  | nil => exact absurd Conditions.takesAll_nil h
  | cons row rest ih =>
    rw [insertRows]
    by_cases hrow : env.Takes s.tried row
    · rw [bind_of_ok (Contacts.create_of_takes hrow)]
      exact ih fun hrest => h (Conditions.takesAll_cons.2 ⟨hrow, hrest⟩)
    · obtain ⟨e, s', hfails, hprogress⟩ := Contacts.create_of_not_takes upload hrow
      exact ⟨e, s', bind_of_error hfails, hprogress⟩

theorem reached_entered (hs : Reached base u now rows s)
    (hi : s.issued.contacts = base.issued.contacts + rows.length) (batch : List Fields) :
    Reached base u now (rows ++ batch) (s.entered u.id now batch) := by
  refine ⟨?_, hs.journal⟩
  unfold Store.entered
  rw [hs.tables, hi]
  simp only [imported, newContacts_append, List.append_assoc]

/-! ### The upload row -/

theorem createUpload_of_unrefused (total : Int)
    (hr : env.refusal s.tried (.insertUpload filename) = none) :
    ∃ s', Uploads.create env filename total s =
        .ok (newUpload s filename env.now total 0 .processing) s' ∧
      Reached s (newUpload s filename env.now total 0 .processing) env.now [] s' ∧
      s'.issued.contacts = s.issued.contacts ∧ s'.tried = s.tried + 1 := by
  unfold Uploads.create
  rw [bind_of_ok (attempt_of_none hr), bind_of_ok (newUploadId_run _)]
  exact ⟨_, rfl, ⟨by simp [imported, newContacts, newUpload], rfl⟩, rfl, rfl⟩

/-- Only the row of the import itself is rewritten. -/
theorem setUpload_imported (hn : Unused base) :
    (imported base (newUpload base filename now total p status) now rows).setUpload
        (newUpload base filename now total q status') =
      imported base (newUpload base filename now total q status') now rows := by
  have hothers : ∀ x ∈ base.tables.uploads,
      (if x.id == (newUpload base filename now total q status').id then
        newUpload base filename now total q status' else x) = x := by
    intro x hx
    exact if_neg fun he => hn x hx (eq_of_beq he)
  unfold Tables.setUpload imported
  simp only [List.map_append, List.map_congr_left hothers, List.map_id', List.map_singleton]
  simp [newUpload]

/-- A progress report is written down, unless there is nothing new in it. -/
theorem setProgress_of_unrefused (hn : Unused base)
    (hs : Reached base (newUpload base filename env.now total p status) env.now rows s)
    (hr : env.refusal s.tried
      (.updateUpload (newUpload base filename env.now total p status).id) = none)
    (q : Int) (change : Option UploadStatus) :
    ∃ s', Uploads.setProgress env (newUpload base filename env.now total p status) q change s =
        .ok (newUpload base filename env.now total q (change.getD status)) s' ∧
      Reached base (newUpload base filename env.now total q (change.getD status)) env.now rows s' ∧
      s'.issued = s.issued ∧ (change.getD status ≠ status → s'.tried = s.tried + 1) := by
  unfold Uploads.setProgress
  rw [bind_of_ok (report_run _ s)]
  by_cases hsame : newUpload base filename env.now total q (change.getD status) =
      newUpload base filename env.now total p status
  · refine ⟨{ s with progress := ⟨q, change⟩ :: s.progress }, ?_, ?_, rfl, ?_⟩
    · rw [hsame]
      exact congrFun (if_pos hsame) _
    · rw [hsame]
      exact ⟨hs.tables, hs.journal⟩
    · exact fun hne => absurd (congrArg Upload.status hsame) hne
  · refine ⟨_, (congrFun (if_neg hsame) _).trans (bind_of_ok (attempt_of_none hr)),
      ⟨?_, hs.journal⟩, rfl, fun _ => rfl⟩
    rw [← setUpload_imported hn, ← hs.tables]
    rfl

end Csv
end AddressBook
