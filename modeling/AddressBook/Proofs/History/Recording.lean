import AddressBook.History
import AddressBook.Proofs.Store.Contacts

/-!
What the recording of a change does: the snapshot before it, which the store may refuse, and the
change itself, which fails as a whole.
-/
namespace AddressBook

/-- The entry in the journal for a change of a contact. -/
def Contact.revision (c : Contact) (changes : Changes) (kept : Bool) (now : Instant) : Revision :=
  ⟨c.id, c.version, c.fields, c.fields.apply changes, kept, now⟩

namespace History

open AddressBook.Action

variable {env : Conditions} {s s' : Store} {c c' : Contact} {changes : Changes} {e : Failure}

/-- The store takes a snapshot of a contact. -/
def SnapshotTaken (env : Conditions) (s : Store) (c : Contact) : Prop :=
  env.refusal s.tried (.insertSnapshot c.id c.version) = none ∧ env.now.isDated ∧
    fitsSigned c.version ∧ Snapshots.admissible s.tables c.id c.version

/-- The store takes the changes of a contact as its next version, once a snapshot was tried. -/
def ChangeTaken (env : Conditions) (s : Store) (c : Contact) (changes : Changes) : Prop :=
  env.refusal (s.tried + 1) (.updateContact c.id) = none ∧
    env.Fits (c.fields.apply changes).values ∧ fitsSigned (c.version + 1)

/-- The next snapshot. -/
def nextSnapshot (s : Store) (c : Contact) (now : Instant) : Snapshot :=
  ⟨.numbered 0xe0 (s.issued.snapshots + 1), c.id, c.version, c.fields, now⟩

/-- The store with its next snapshot. -/
def withSnapshot (s : Store) (c : Contact) (now : Instant) : Store :=
  { s with
    tables := { s.tables with snapshots := s.tables.snapshots ++ [nextSnapshot s c now] }
    issued := { s.issued with snapshots := s.issued.snapshots + 1 }
    tried := s.tried + 1 }

theorem create_of_taken (h : SnapshotTaken env s c) :
    Snapshots.create env c.id c.version c.fields env.now s =
      .ok (nextSnapshot s c env.now) (withSnapshot s c env.now) := by
  obtain ⟨hr, ht, hv, ha⟩ := h
  apply savepoint_of_ok
  rw [bind_of_ok (attempt_of_none hr), bind_of_ok (newSnapshotId_run _),
    bind_of_ok ((bindInstant_checks _).ok ht _), bind_of_ok ((bindInteger_checks _).ok hv _),
    bind_of_ok (tables_run _)]
  simp only [ha, Bool.not_true, Bool.false_eq_true, if_false]
  rfl

theorem of_create {p : Snapshot}
    (h : Snapshots.create env c.id c.version c.fields env.now s = .ok p s') :
    SnapshotTaken env s c := by
  obtain ⟨_, s₁, ha, h₁⟩ := bind_eq_ok.1 (of_savepoint h)
  obtain ⟨hr, rfl⟩ := of_attempt ha
  rw [bind_of_ok (newSnapshotId_run _)] at h₁
  obtain ⟨_, s₂, hbt, h₂⟩ := bind_eq_ok.1 h₁
  obtain ⟨ht, rfl⟩ := (bindInstant_checks _).of_ok hbt
  obtain ⟨_, s₃, hbv, h₃⟩ := bind_eq_ok.1 h₂
  obtain ⟨hv, rfl⟩ := (bindInteger_checks _).of_ok hbv
  rw [bind_of_ok (tables_run _)] at h₃
  cases had : Snapshots.admissible s.tables c.id c.version with
  | true => exact ⟨hr, ht, hv, had⟩
  | false =>
    simp only [had, Bool.not_false, if_true] at h₃
    cases h₃

/-- A snapshot that cannot be written leaves nothing behind but a try, and its number perhaps. -/
theorem create_error (h : Snapshots.create env c.id c.version c.fields env.now s = .error e s') :
    ∃ n, s.issued.snapshots ≤ n ∧
      s' = { s with issued := { s.issued with snapshots := n }, tried := s.tried + 1 } := by
  obtain ⟨s₀, h₀, rfl⟩ := savepoint_error h
  obtain ha | ⟨_, s₁, ha, h₁⟩ := bind_eq_error.1 h₀
  · rw [attempt_error ha]
    exact ⟨_, Nat.le_refl _, rfl⟩
  obtain ⟨hr, rfl⟩ := of_attempt ha
  rw [bind_of_ok (newSnapshotId_run _)] at h₁
  obtain ht | ⟨_, s₂, ht, h₂⟩ := bind_eq_error.1 h₁
  · rw [(bindInstant_checks _).of_error ht]
    exact ⟨_, Nat.le_succ _, rfl⟩
  obtain ⟨-, rfl⟩ := (bindInstant_checks _).of_ok ht
  obtain hv | ⟨_, s₃, hv, h₃⟩ := bind_eq_error.1 h₂
  · rw [(bindInteger_checks _).of_error hv]
    exact ⟨_, Nat.le_succ _, rfl⟩
  obtain ⟨-, rfl⟩ := (bindInteger_checks _).of_ok hv
  rw [bind_of_ok (tables_run _)] at h₃
  cases ha : Snapshots.admissible s.tables c.id c.version with
  | true =>
    simp only [ha, Bool.not_true, Bool.false_eq_true, if_false] at h₃
    cases h₃
  | false =>
    simp only [ha, Bool.not_false, if_true] at h₃
    cases h₃
    exact ⟨_, Nat.le_succ _, rfl⟩

/-- What trying to keep a contact's values comes to: a snapshot, or nothing but a try. -/
structure Kept (env : Conditions) (c : Contact) (s s' : Store) (kept : Option Snapshot) :
    Prop where
  tables : s'.tables = { s.tables with snapshots := s.tables.snapshots ++ kept.toList }
  journal : s'.journal = s.journal
  issued : s.issued ≤ s'.issued
  tried : s'.tried = s.tried + 1
  taken : kept.isSome ↔ SnapshotTaken env s c
  snapshot : ∀ p, kept = some p → p = nextSnapshot s c env.now

/-- Keeping a contact's values never fails. -/
theorem keep_run (env : Conditions) (c : Contact) (s : Store) :
    ∃ kept s', keep env c s = .ok kept s' ∧ Kept env c s s' kept := by
  unfold keep
  by_cases h : SnapshotTaken env s c
  · refine ⟨some (nextSnapshot s c env.now), withSnapshot s c env.now, ?_, ?_⟩
    · rw [bind_of_ok (recover_of_ok (create_of_taken h))]
      rfl
    · exact ⟨rfl, rfl, ⟨Nat.le_refl _, Nat.le_succ _, Nat.le_refl _, Nat.le_refl _⟩, rfl,
        by simpa using h, by simp⟩
  · cases hc : Snapshots.create env c.id c.version c.fields env.now s with
    | ok p s' => exact absurd (of_create hc) h
    | error e s' =>
      obtain ⟨n, hn, rfl⟩ := create_error hc
      refine ⟨none, _, bind_of_ok (recover_of_error hc), ?_⟩
      exact ⟨by simp, rfl, ⟨Nat.le_refl _, hn, Nat.le_refl _, Nat.le_refl _⟩, rfl,
        by simpa using h, by simp⟩

/-- What a recorded change does to the store. -/
structure Recorded (env : Conditions) (c : Contact) (changes : Changes) (s s' : Store)
    (kept : Option Snapshot) : Prop where
  tables : s'.tables = { s.tables.setContact (c.revised changes env.now) with
    snapshots := s.tables.snapshots ++ kept.toList }
  journal : s'.journal = c.revision changes kept.isSome env.now :: s.journal
  issued : s.issued ≤ s'.issued
  tried : s'.tried = s.tried + 2
  taken : kept.isSome ↔ SnapshotTaken env s c
  snapshot : ∀ p, kept = some p → p = nextSnapshot s c env.now

theorem record_of_taken (h : ChangeTaken env s c changes) :
    ∃ kept s', record env c changes s = .ok (c.revised changes env.now) s' ∧
      Recorded env c changes s s' kept := by
  obtain ⟨kept, s₁, hk, hs₁⟩ := keep_run env c s
  obtain ⟨hr, ht, hv⟩ := h
  rw [← hs₁.tried] at hr
  refine ⟨kept, { s₁ with
    tables := s₁.tables.setContact (c.revised changes env.now)
    journal := c.revision changes kept.isSome env.now :: s₁.journal
    tried := s₁.tried + 1 }, ?_, ?_⟩
  · unfold record
    rw [bind_of_ok hk, bind_of_ok (Contacts.applyChanges_of_fits hr ht hv), bind_of_ok (note_run _ _)]
    rfl
  · refine ⟨?_, ?_, hs₁.issued, ?_, hs₁.taken, hs₁.snapshot⟩
    · rw [hs₁.tables]
      rfl
    · rw [hs₁.journal]
    · rw [hs₁.tried]

theorem of_record (h : record env c changes s = .ok c' s') :
    ChangeTaken env s c changes ∧ c' = c.revised changes env.now ∧
      ∃ kept, Recorded env c changes s s' kept := by
  obtain ⟨kept, s₁, hk, hs₁⟩ := keep_run env c s
  have htaken : ChangeTaken env s c changes := by
    unfold record at h
    rw [bind_of_ok hk] at h
    obtain ⟨c₁, s₂, ha, -⟩ := bind_eq_ok.1 h
    have hc := Contacts.of_applyChanges ha
    rwa [hs₁.tried] at hc
  obtain ⟨kept', s₂, hrec, hs₂⟩ := record_of_taken htaken
  rw [hrec] at h
  cases h
  exact ⟨htaken, rfl, kept', hs₂⟩

theorem record_error (h : record env c changes s = .error e s') :
    s.issued ≤ s'.issued ∧ s'.tried = s.tried + 2 := by
  obtain ⟨kept, s₁, hk, hs₁⟩ := keep_run env c s
  unfold record at h
  rw [bind_of_ok hk] at h
  obtain ha | ⟨c₁, s₂, ha, h₂⟩ := bind_eq_error.1 h
  · rw [Contacts.applyChanges_error ha]
    exact ⟨hs₁.issued, by rw [hs₁.tried]⟩
  · cases h₂

end History
end AddressBook
