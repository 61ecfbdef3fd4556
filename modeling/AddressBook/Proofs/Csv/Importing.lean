import AddressBook.Proofs.Service.Operations

/-!
What an import leaves behind: one upload, and the contacts that come from it. At every point the
contacts inserted so far are counted, and the upload says in the end how many there are.
-/
namespace AddressBook.Csv

open AddressBook.Action

/-- An import that has come so far as to have inserted a certain number of contacts. -/
structure Underway (base : Store) (filename : Text) (total : Int) (s : Store) (u : Upload)
    (count : Nat) : Prop where
  uploads : s.tables.uploads = base.tables.uploads ++ [u]
  contacts : ∃ new, s.tables.contacts = base.tables.contacts ++ new ∧ new.length = count ∧
    ∀ c ∈ new, c.upload = some u.id
  number : u.id = .numbered 0xd0 (base.issued.uploads + 1)
  issued : base.issued.uploads < s.issued.uploads
  filename : u.filename = filename
  total : u.total = total

/-- What an import has left behind. -/
structure Imported (base : Store) (filename : Text) (total size : Int) (s : Store) (u : Upload) :
    Prop where
  inserted : ∃ count, Underway base filename total s u count ∧ u.processed = count
  outcome : (u.status = .completed ∧ u.processed = if size < 0 then 0 else total) ∨
    (u.status = .failed ∧ u.processed = 0)

variable {env : Conditions} {base s s' : Store} {filename : Text} {total size done done' : Int}
  {u u' : Upload} {count : Nat} {e : Failure}

/-- No stored upload has the next number. -/
def Unused (s : Store) : Prop :=
  ∀ x ∈ s.tables.uploads, x.id ≠ .numbered 0xd0 (s.issued.uploads + 1)

/-! ### The upload -/

theorem of_createUpload (h : Uploads.create env filename total s = .ok u s') :
    Underway s filename total s' u 0 := by
  obtain ⟨_, s₁, ha, h₁⟩ := bind_eq_ok.1 h
  obtain ⟨-, rfl⟩ := of_attempt ha
  rw [bind_of_ok (newUploadId_run _)] at h₁
  cases h₁
  exact ⟨rfl, ⟨[], (List.append_nil _).symm, rfl, by simp⟩, rfl, Nat.lt_succ_self _, rfl, rfl⟩

/-- An upload row is replaced by one that differs in progress and status at most. -/
theorem Underway.setUpload (h : Underway base filename total s u count) (hn : Unused base)
    {p : Int} {status : UploadStatus} {updated : Instant}
    (hu : s'.tables.uploads =
      (s.tables.setUpload { u with processed := p, status, updated }).uploads)
    (hc : s'.tables.contacts = s.tables.contacts) (hi : s'.issued = s.issued) :
    Underway base filename total s' { u with processed := p, status, updated } count := by
  refine ⟨?_, hc ▸ h.contacts, h.number, hi ▸ h.issued, h.filename, h.total⟩
  have hothers : ∀ x ∈ base.tables.uploads,
      (if x.id == u.id then { u with processed := p, status, updated } else x) = x := by
    intro x hx
    have hne : x.id ≠ u.id := h.number ▸ hn x hx
    rw [beq_false_of_ne hne, if_neg Bool.false_ne_true]
  rw [hu]
  unfold Tables.setUpload
  rw [h.uploads]
  simp only [List.map_append, List.map_congr_left hothers, List.map_id', List.map_singleton,
    beq_self_eq_true, if_true]

theorem of_setProgress {status : Option UploadStatus}
    (h : Uploads.setProgress env u done status s = .ok u' s')
    (hu : Underway base filename total s u count) (hn : Unused base) :
    Underway base filename total s' u' count ∧ u'.processed = done ∧
      u'.status = status.getD u.status := by
  unfold Uploads.setProgress at h
  rw [bind_of_ok (report_run _ s)] at h
  by_cases hsame : ({ u with processed := done, status := status.getD u.status } : Upload) = u
  · simp only [hsame, if_true] at h
    cases h
    refine ⟨⟨hu.uploads, hu.contacts, hu.number, hu.issued, hu.filename, hu.total⟩, ?_, ?_⟩
    · exact (congrArg Upload.processed hsame).symm
    · exact (congrArg Upload.status hsame).symm
  · simp only [hsame, if_false] at h
    obtain ⟨_, s₁, ha, h₁⟩ := bind_eq_ok.1 h
    obtain ⟨-, rfl⟩ := of_attempt ha
    cases h₁
    exact ⟨hu.setUpload hn rfl rfl rfl, rfl, rfl⟩

/-! ### The contacts -/

theorem of_insertRows {rows : List Fields} {x : Unit} (h : insertRows env u.id rows s = .ok x s')
    (hu : Underway base filename total s u count) :
    Underway base filename total s' u (count + rows.length) := by
  induction rows generalizing s count with
  | nil =>
    cases h
    exact hu
  | cons row rest ih =>
    obtain ⟨c, s₁, hc, hrest⟩ := bind_eq_ok.1 h
    obtain ⟨-, rfl, rfl⟩ := Contacts.of_create hc
    obtain ⟨new, hnew, hlength, hfrom⟩ := hu.contacts
    rw [List.length_cons, Nat.add_comm rest.length, ← Nat.add_assoc]
    apply ih hrest
    refine ⟨hu.uploads, ⟨new ++ [Contacts.newRow s row (some u.id) env.now], ?_, ?_, ?_⟩,
      hu.number, hu.issued, hu.filename, hu.total⟩
    · rw [← List.append_assoc, ← hnew]
    · rw [List.length_append, hlength]
      rfl
    · intro c hc
      rcases List.mem_append.1 hc with hc | hc
      · exact hfrom c hc
      · rw [List.mem_singleton.1 hc]
        rfl

theorem of_insertBatches {batches : List (List Fields)}
    (h : insertBatches env u done batches s = .ok (u', done') s')
    (hu : Underway base filename total s u count) (hn : Unused base) :
    Underway base filename total s' u' (count + batches.flatten.length) ∧
      done' = done + batches.flatten.length := by
  induction batches generalizing s u done count with
  | nil =>
    cases h
    simpa using hu
  | cons batch rest ih =>
    obtain ⟨_, s₁, hrows, h₁⟩ := bind_eq_ok.1 h
    obtain ⟨u₁, s₂, hprogress, h₂⟩ := bind_eq_ok.1 h₁
    have hu₁ := (of_setProgress hprogress (of_insertRows hrows hu) hn).1
    obtain ⟨hu', hdone⟩ := ih h₂ hu₁
    rw [List.flatten_cons, List.length_append, ← Nat.add_assoc]
    refine ⟨hu', ?_⟩
    rw [hdone]
    push_cast
    omega

/-! ### The batches -/

theorem parts_flatten {α : Type} {n fuel : Nat} {xs : List α} (hn : 0 < n)
    (hf : xs.length ≤ fuel) : (parts n fuel xs).flatten = xs := by
  induction fuel generalizing xs with
  | zero =>
    rw [List.length_eq_zero_iff.1 (Nat.le_zero.1 hf)]
    rfl
  | succ fuel ih =>
    cases xs with
    | nil => rfl
    | cons x rest =>
      have hrest : ((x :: rest).drop n).length ≤ fuel := by
        rw [List.length_drop]
        omega
      show ((x :: rest).take n :: parts n fuel ((x :: rest).drop n)).flatten = _
      rw [List.flatten_cons, ih hrest, List.take_append_drop]

/-- Only a negative size leaves rows out. -/
theorem batches_flatten {rows : List Fields} {batches : List (List Fields)}
    (h : Csv.batches size rows = .ok batches) :
    batches.flatten = if size < 0 then [] else rows := by
  unfold Csv.batches at h
  by_cases hzero : size = 0
  · simp [hzero] at h
  · by_cases hneg : size < 0
    · simp only [beq_iff_eq, hzero, hneg, if_true, if_false] at h
      cases h
      simp [hneg]
    · simp only [beq_iff_eq, hzero, hneg, if_false] at h
      cases h
      rw [if_neg hneg]
      exact parts_flatten (by omega) (Nat.le_refl _)

theorem batches_length {rows : List Fields} {batches : List (List Fields)}
    (h : Csv.batches size rows = .ok batches) :
    batches.flatten.length = if size < 0 then 0 else rows.length := by
  rw [batches_flatten h]
  split <;> rfl

/-! ### The whole import -/

theorem of_insertAll {rows : List Fields} (h : insertAll env u size rows s = .ok (u', done) s')
    (hu : Underway base filename total s u 0) (hn : Unused base) :
    Underway base filename total s' u' (if size < 0 then 0 else rows.length) ∧
      done = if size < 0 then 0 else (rows.length : Int) := by
  obtain ⟨batches, s₁, hbatches, h₁⟩ := bind_eq_ok.1 (of_savepoint h)
  cases hb : Csv.batches size rows with
  | error e =>
    rw [hb] at hbatches
    cases hbatches
  | ok parts =>
    rw [hb] at hbatches
    cases hbatches
    obtain ⟨hu', hdone⟩ := of_insertBatches h₁ hu hn
    rw [batches_length hb, Nat.zero_add] at hu'
    rw [batches_length hb, Int.zero_add] at hdone
    refine ⟨hu', ?_⟩
    rw [hdone]
    split <;> rfl

/-- Contacts that could not be inserted are taken back, all of them. -/
theorem of_insertAll_error {rows : List Fields} (h : insertAll env u size rows s = .error e s')
    (hu : Underway base filename total s u 0) : Underway base filename total s' u 0 := by
  have hissued : s.issued ≤ s'.issued :=
    ((leads_insertAll u size rows).ok (recover_of_error h)).1.issued_le
  obtain ⟨s₁, -, rfl⟩ := savepoint_error h
  exact ⟨hu.uploads, hu.contacts, hu.number, Nat.lt_of_lt_of_le hu.issued hissued.2.2.2,
    hu.filename, hu.total⟩

/-- An import that answers has left an upload that tells how many contacts came from it. -/
theorem of_run {content : Text} (h : run env filename content size s = .ok u s') (hn : Unused s) :
    ∃ rows, contacts content = .ok rows ∧ Imported s filename rows.length size s' u := by
  obtain ⟨rows, s₁, hrows, h₁⟩ := bind_eq_ok.1 h
  cases hc : contacts content with
  | error e =>
    rw [hc] at hrows
    cases hrows
  | ok rows' =>
    rw [hc] at hrows
    cases hrows
    refine ⟨rows, rfl, ?_⟩
    obtain ⟨u₁, s₂, hcreate, h₂⟩ := bind_eq_ok.1 h₁
    have hu₁ := of_createUpload hcreate
    rw [bind_of_ok (reports_run s₂)] at h₂
    cases hall : insertAll env u₁ size rows s₂ with
    | ok r s₃ =>
      obtain ⟨u₂, done⟩ := r
      rw [bind_of_ok (recover_of_ok hall)] at h₂
      obtain ⟨hu₂, hdone⟩ := of_insertAll hall hu₁ hn
      obtain ⟨hu, hp, hstatus⟩ := of_setProgress h₂ hu₂ hn
      rw [hdone] at hp
      refine ⟨⟨_, hu, ?_⟩, Or.inl ⟨hstatus, hp⟩⟩
      rw [hp]
      split <;> rfl
    | error e s₃ =>
      -- the savepoint has put the row back to what `u₁` says, so that it can be marked as failed
      rw [bind_of_ok (recover_of_error hall)] at h₂
      have hu₃ := of_insertAll_error hall hu₁
      dsimp only at h₂
      rw [bind_of_ok (reports_run s₃)] at h₂
      split at h₂
      · obtain ⟨hu, hp, hstatus⟩ := of_setProgress h₂ hu₃ hn
        exact ⟨⟨0, hu, hp⟩, Or.inr ⟨hstatus, hp⟩⟩
      · cases h₂

end AddressBook.Csv
