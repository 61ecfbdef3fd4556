import AddressBook.Proofs.Csv.Entering

/-!
Imports that are broken off under their savepoint. One that fails before its first progress report
leaves a failed upload and nothing else. Behind a report the upload row is stale once the savepoint
has been taken back; then the import cannot even say that it has failed, and all of it is lost.
-/
namespace AddressBook.Csv

open AddressBook.Action

/-- An import can make no progress report: it cannot be cut into batches, or the first batch has a
row that the store does not take. Its rows come at a certain try and after. -/
def NeverReports (env : Conditions) (size : Int) (rows : List Fields) (n : Nat) : Prop :=
  size = 0 ∨ ¬ env.TakesAll n (rows.take size.toNat)

variable {env : Conditions} {s s' s₁ s₂ : Store} {filename content : Text} {done size : Int}
  {rows batch : List Fields} {bs : List (List Fields)} {u : Upload} {e : Failure}

/-! ### Progress reports -/

theorem progress_setProgress (env : Conditions) (u : Upload) (q : Int)
    (change : Option UploadStatus) (s : Store) :
    (after (Uploads.setProgress env u q change) s).progress = ⟨q, change⟩ :: s.progress := by
  unfold after Uploads.setProgress
  rw [bind_of_ok (report_run _ s)]
  by_cases hsame : ({ u with processed := q, status := change.getD u.status } : Upload) = u
  · simp only [hsame, if_true, pure_run]
  · simp only [hsame, if_false, bind_run, attempt_run]
    cases env.refusal s.tried (.updateUpload u.id) <;> rfl

/-- Where an import fails: in a row of its first batch, before any report, or behind the report on
that batch. -/
theorem insertBatches_error (h : insertBatches env u done (batch :: bs) s = .error e s') :
    (¬ env.TakesAll s.tried batch ∧ s'.progress = s.progress) ∨
    (env.TakesAll s.tried batch ∧ ∃ s₁, s₁.progress.length = s.progress.length + 1 ∧
      (s' = s₁ ∨ ∃ u₁ done₁, insertBatches env u₁ done₁ bs s₁ = .error e s')) := by
  by_cases htakes : env.TakesAll s.tried batch
  case neg =>
    obtain ⟨e₁, s₁, hfails, hprogress⟩ := insertRows_of_not_takesAll u.id htakes
    have hfirst : insertBatches env u done (batch :: bs) s = .error e₁ s₁ := bind_of_error hfails
    rw [h] at hfirst
    cases hfirst
    exact .inl ⟨htakes, hprogress⟩
  have hrows := insertRows_of_takesAll u.id htakes
  have hreport := congrArg List.length (progress_setProgress env u (done + batch.length) none
    (s.entered u.id env.now batch))
  unfold after at hreport
  have hbehind := (bind_of_ok hrows).symm.trans h
  obtain hfails | ⟨u₁, s₁, hreported, hrest⟩ := bind_eq_error.1 hbehind
  · rw [hfails] at hreport
    exact .inr ⟨htakes, s', hreport, .inl rfl⟩
  · rw [hreported] at hreport
    exact .inr ⟨htakes, s₁, hreport, .inr ⟨u₁, _, hrest⟩⟩

/-- The store has taken each row of an import that goes through. -/
theorem takes_of_insertBatches {r : Upload × Int} {row : Fields}
    (h : insertBatches env u done bs s = .ok r s') (hrow : row ∈ bs.flatten) :
    ∃ n, env.Takes n row := by
  induction bs generalizing u done s with
  | nil => cases hrow
  | cons batch rest ih =>
    obtain ⟨_, s₁, hrows, hbehind⟩ := bind_eq_ok.1 h
    obtain ⟨_, _, -, hrest⟩ := bind_eq_ok.1 hbehind
    rw [List.flatten_cons, List.mem_append] at hrow
    obtain hbatch | hlater := hrow
    · by_cases htakes : env.TakesAll s.tried batch
      · obtain ⟨i, hi⟩ := List.mem_iff_getElem?.1 hbatch
        exact ⟨_, htakes i row hi⟩
      · obtain ⟨e, s₂, hfails, -⟩ := insertRows_of_not_takesAll u.id htakes
        rw [hfails] at hrows
        cases hrows
    · exact ih hrest hlater

/-- Reports are not taken back. -/
theorem progress_le_of_insertBatches (h : insertBatches env u done bs s = .error e s') :
    s.progress.length ≤ s'.progress.length := by
  induction bs generalizing u done s with
  | nil => cases h
  | cons batch rest ih =>
    obtain ⟨-, hsame⟩ | ⟨-, s₁, hmore, rfl | ⟨u₁, done₁, hrest⟩⟩ := insertBatches_error h
    · exact Nat.le_of_eq (congrArg List.length hsame).symm
    · omega
    · have hle := ih hrest
      omega

theorem progress_of_insertBatches (h : insertBatches env u done (batch :: bs) s = .error e s') :
    s'.progress.length = s.progress.length ↔ ¬ env.TakesAll s.tried batch := by
  obtain ⟨hnot, hsame⟩ | ⟨htakes, s₁, hmore, rfl | ⟨u₁, done₁, hrest⟩⟩ := insertBatches_error h
  · simp [hnot, hsame]
  · simp [htakes, hmore]
  · have hle := progress_le_of_insertBatches hrest
    refine ⟨fun hsame => ?_, fun hnot => absurd htakes hnot⟩
    omega

/-- A failed import made no report exactly if it could not make any. -/
theorem progress_of_insertAll (h : insertAll env u size rows s = .error e s') :
    s'.progress.length = s.progress.length ↔ NeverReports env size rows s.tried := by
  obtain ⟨s₁, hbody, rfl⟩ := savepoint_error h
  unfold NeverReports
  by_cases hzero : size = 0
  · subst hzero
    have hcut : batches 0 rows = .error .emptyBatch := rfl
    rw [hcut] at hbody
    cases hbody
    simp
  by_cases hneg : size < 0
  · have hcut : batches size rows = .ok [] := by simp [batches, hzero, hneg]
    rw [hcut] at hbody
    cases hbody
  have hcut : batches size rows = .ok (parts size.toNat rows.length rows) := by
    simp [batches, hzero, hneg]
  rw [hcut] at hbody
  cases rows with
  | nil => cases hbody
  | cons row rest =>
    have hfirst : insertBatches env u 0 ((row :: rest).take size.toNat ::
        parts size.toNat rest.length ((row :: rest).drop size.toNat)) s = .error e s₁ := hbody
    have hreports := progress_of_insertBatches hfirst
    rwa [or_iff_right hzero]

/-! ### The whole import -/

theorem of_createUpload_run (h : Uploads.create env filename rows.length s = .ok u s₁) :
    u = newUpload s filename env.now rows.length 0 .processing ∧ Reached s u env.now [] s₁ ∧
      s₁.tried = s.tried + 1 := by
  obtain ⟨_, _, htry, -⟩ := bind_eq_ok.1 h
  obtain ⟨s', hcreate, hs', -, htried⟩ :=
    createUpload_of_unrefused rows.length (of_attempt htry).1
  rw [h] at hcreate
  cases hcreate
  exact ⟨rfl, hs', htried⟩

/-- What an import does that has failed under its savepoint. -/
theorem run_of_failed (hparsed : contacts content = .ok rows)
    (hcreate : Uploads.create env filename rows.length s = .ok u s₁)
    (hfails : insertAll env u size rows s₁ = .error e s₂) :
    run env filename content size s =
      (if s₂.progress.length == s₁.progress.length then Uploads.setProgress env u 0 (some .failed)
        else throw .stale) s₂ := by
  unfold run
  rw [hparsed]
  exact (bind_of_ok hcreate).trans (bind_of_ok (recover_of_error hfails))

/-- Without a progress report, the upload stays behind as failed. -/
theorem run_unreported (hn : Unused s) (hparsed : contacts content = .ok rows)
    (hcreate : Uploads.create env filename rows.length s = .ok u s₁)
    (hfails : insertAll env u size rows s₁ = .error e s₂)
    (hmark : env.refusal s₂.tried (.updateUpload u.id) = none)
    (hcommit : env.refusal (s₂.tried + 1) .commit = none)
    (hnever : NeverReports env size rows (s.tried + 1)) :
    ∃ t, transaction env (run env filename content size) s =
        .ok (newUpload s filename env.now rows.length 0 .failed) t ∧
      t.tables = { s.tables with
        uploads := s.tables.uploads ++ [newUpload s filename env.now rows.length 0 .failed] } ∧
      t.journal = s.journal := by
  obtain ⟨rfl, hs₁, htried⟩ := of_createUpload_run hcreate
  have hreports := (progress_of_insertAll hfails).2 (htried ▸ hnever)
  -- the savepoint has put back all rows that were written under it
  have hs₂ : Reached s (newUpload s filename env.now rows.length 0 .processing) env.now [] s₂ := by
    obtain ⟨s₃, -, rfl⟩ := savepoint_error hfails
    exact ⟨hs₁.tables, hs₁.journal⟩
  obtain ⟨s₃, hset, hs₃, -, htried₃⟩ := setProgress_of_unrefused hn hs₂ hmark 0 (some .failed)
  have hrun := run_of_failed hparsed hcreate hfails
  rw [if_pos (by simpa using hreports), hset] at hrun
  have hkept : env.refusal s₃.tried .commit = none := by
    rw [htried₃ nofun]
    exact hcommit
  refine ⟨_, transaction_of_ok hrun hkept, ?_, hs₃.journal⟩
  exact hs₃.tables.trans (by simp [imported, newContacts])

/-- After a progress report, nothing is left of an import that fails. -/
theorem run_reported (hparsed : contacts content = .ok rows)
    (hcreate : Uploads.create env filename rows.length s = .ok u s₁)
    (hfails : insertAll env u size rows s₁ = .error e s₂)
    (hreported : ¬ NeverReports env size rows (s.tried + 1)) :
    ∃ t, transaction env (run env filename content size) s = .error .stale t ∧
      t.tables = s.tables ∧ t.journal = s.journal := by
  obtain ⟨-, -, htried⟩ := of_createUpload_run hcreate
  have hmore : s₂.progress.length ≠ s₁.progress.length := by
    rw [ne_eq, progress_of_insertAll hfails, htried]
    exact hreported
  have hrun := run_of_failed hparsed hcreate hfails
  rw [if_neg (by simpa using hmore)] at hrun
  exact ⟨_, transaction_of_error hrun, rfl, rfl⟩

/-- What becomes of an import whose savepoint is taken back, while all else can be written. Without
a progress report the upload stays behind as failed, and the request keeps it. After a report all
of the import fails, and the request keeps nothing. -/
theorem run_interrupted (env : Conditions) (filename : Text) (size : Int) (hn : Unused s)
    (hparsed : contacts content = .ok rows)
    (hcreate : Uploads.create env filename rows.length s = .ok u s₁)
    (hfails : insertAll env u size rows s₁ = .error e s₂)
    (hmark : env.refusal s₂.tried (.updateUpload u.id) = none)
    (hcommit : env.refusal (s₂.tried + 1) .commit = none) :
    (NeverReports env size rows (s.tried + 1) →
      ∃ t, transaction env (run env filename content size) s =
          .ok (newUpload s filename env.now rows.length 0 .failed) t ∧
        t.tables = { s.tables with
          uploads := s.tables.uploads ++ [newUpload s filename env.now rows.length 0 .failed] } ∧
        t.journal = s.journal) ∧
    (¬ NeverReports env size rows (s.tried + 1) →
      ∃ t, transaction env (run env filename content size) s = .error .stale t ∧
        t.tables = s.tables ∧ t.journal = s.journal) :=
  ⟨run_unreported hn hparsed hcreate hfails hmark hcommit, run_reported hparsed hcreate hfails⟩

/-- A document of two contacts. -/
def namedPair : Text := Text.ofString "name\na\nb\n"

/-- Conditions under which the second contact of the document cannot be inserted. -/
def secondRefused : Conditions :=
  { Conditions.fair 1 with
    refusal := fun _ w => if w = .insertContact { name := some ['b'] } then some [] else none }

theorem contacts_namedPair :
    contacts namedPair = .ok [{ name := some ['a'] }, { name := some ['b'] }] := rfl

/-- Both rows at once leave a failed upload. -/
theorem run_interrupted_namedPair : ∃ u t,
    transaction secondRefused (run secondRefused ['f'] namedPair 2) {} = .ok u t ∧
      u.status = .failed ∧ t.tables = { uploads := [u] } := by
  obtain ⟨t, hrun, ht, -⟩ := (run_interrupted (s := {}) secondRefused ['f'] 2 nofun
    contacts_namedPair rfl rfl rfl rfl).1 (.inr fun h => by
      have hsecond := (h 1 _ rfl).unrefused
      cases hsecond)
  exact ⟨_, t, hrun, rfl, ht⟩

/-- The second row of the document is refused whenever it comes, so the import cannot go through. -/
theorem insertAll_secondRefused (u : Upload) (s : Store) : ∃ e s', insertAll secondRefused u 1
    [{ name := some ['a'] }, { name := some ['b'] }] s = .error e s' := by
  cases hall : insertAll secondRefused u 1 [{ name := some ['a'] }, { name := some ['b'] }] s with
  | error e s' => exact ⟨e, s', rfl⟩
  | ok r s' =>
    have hbatches : insertBatches secondRefused u 0
        [[{ name := some ['a'] }], [{ name := some ['b'] }]] s = .ok r s' := of_savepoint hall
    have hrow : ({ name := some ['b'] } : Fields) ∈
        [[{ name := some ['a'] }], [{ name := some ['b'] }]].flatten := by simp
    obtain ⟨n, htaken⟩ := takes_of_insertBatches hbatches hrow
    have hsecond := htaken.unrefused
    cases hsecond

/-- Row by row, the import fails after a report on the first row, and no upload is left. -/
theorem run_interrupted_lost : ¬ ∀ (env : Conditions) (s s₁ s₂ : Store) (filename content : Text)
    (size : Int) (rows : List Fields) (u : Upload) (e : Failure), Unused s →
    contacts content = .ok rows → Uploads.create env filename rows.length s = .ok u s₁ →
    insertAll env u size rows s₁ = .error e s₂ →
    env.refusal s₂.tried (.updateUpload u.id) = none →
    env.refusal (s₂.tried + 1) .commit = none →
    ∃ v t, transaction env (run env filename content size) s = .ok v t := by
  intro h
  have hfirst : secondRefused.Takes 1 { name := some ['a'] } := ⟨rfl, by decide, fun _ _ => rfl⟩
  have hreported :
      ¬ NeverReports secondRefused 1 [{ name := some ['a'] }, { name := some ['b'] }] 1 := by
    rintro (hzero | hnot)
    · cases hzero
    · exact hnot (Conditions.takesAll_cons.2 ⟨hfirst, Conditions.takesAll_nil⟩)
  have hunrefused : secondRefused.refusal ({} : Store).tried (.insertUpload ['f']) = none := rfl
  obtain ⟨s₁, hcreate, -⟩ := createUpload_of_unrefused 2 hunrefused
  obtain ⟨e, s₂, hfails⟩ :=
    insertAll_secondRefused (newUpload {} ['f'] secondRefused.now 2 0 .processing) s₁
  obtain ⟨v, t, hrun⟩ := h secondRefused {} s₁ s₂ ['f'] namedPair 1 _ _ e nofun contacts_namedPair
    hcreate hfails rfl rfl
  obtain ⟨t', hlost, -⟩ := run_reported contacts_namedPair hcreate hfails hreported
  rw [hrun] at hlost
  cases hlost

end AddressBook.Csv
