import AddressBook.Store.Action

/-! What actions come to when they run: sequences, checks of values, savepoints and transactions. -/
namespace AddressBook

/-- The store has room for every text of a list. -/
def Conditions.Fits (env : Conditions) (ts : List (Option Text)) : Prop :=
  ∀ t, some t ∈ ts → env.dialect.unfit t = none

instance (env : Conditions) (ts : List (Option Text)) : Decidable (env.Fits ts) :=
  decidable_of_iff (∀ x ∈ ts, ∀ t ∈ x, env.dialect.unfit t = none)
    ⟨fun h t ht => h _ ht t rfl, fun h x hx t ht => h t (by rwa [← Option.mem_def.1 ht])⟩

namespace Action

variable {α β : Type} {act : Action α} {f : α → Action β} {s s' : Store} {e : Failure}
  {env : Conditions}

/-- The store after an action, whether it succeeds or not. -/
def after (act : Action α) (s : Store) : Store :=
  match act s with
  | .ok _ s' => s'
  | .error _ s' => s'

@[simp] theorem pure_run (x : α) (s : Store) : (pure x : Action α) s = .ok x s := rfl

@[simp] theorem throw_run (e : Failure) (s : Store) : (throw e : Action α) s = .error e s := rfl

@[simp] theorem tables_run (s : Store) : tables s = .ok s.tables s := rfl

@[simp] theorem note_run (r : Revision) (s : Store) :
    note r s = .ok () { s with journal := r :: s.journal } := rfl

@[simp] theorem report_run (p : Progress) (s : Store) :
    report p s = .ok () { s with progress := p :: s.progress } := rfl

@[simp] theorem reports_run (s : Store) : reports s = .ok s.progress.length s := rfl

theorem newContactId_run (s : Store) :
    newContactId s = .ok (.numbered 0xc0 (s.issued.contacts + 1))
      { s with issued := { s.issued with contacts := s.issued.contacts + 1 } } := rfl

theorem newSnapshotId_run (s : Store) :
    newSnapshotId s = .ok (.numbered 0xe0 (s.issued.snapshots + 1))
      { s with issued := { s.issued with snapshots := s.issued.snapshots + 1 } } := rfl

theorem newUploadId_run (s : Store) :
    newUploadId s = .ok (.numbered 0xd0 (s.issued.uploads + 1))
      { s with issued := { s.issued with uploads := s.issued.uploads + 1 } } := rfl

theorem bind_run (act : Action α) (f : α → Action β) (s : Store) :
    (act >>= f) s = match act s with
      | .ok x s' => f x s'
      | .error e s' => .error e s' := by
  show EStateM.bind act f s = _
  unfold EStateM.bind
  cases act s <;> rfl

theorem bind_of_ok {x : α} (h : act s = .ok x s') : (act >>= f) s = f x s' := by
  rw [bind_run, h]

theorem bind_of_error (h : act s = .error e s') : (act >>= f) s = .error e s' := by
  rw [bind_run, h]

theorem bind_eq_ok {y : β} :
    (act >>= f) s = .ok y s' ↔ ∃ x s₁, act s = .ok x s₁ ∧ f x s₁ = .ok y s' := by
  rw [bind_run]
  cases act s with
  | ok x s₁ =>
    constructor
    · intro h
      exact ⟨x, s₁, rfl, h⟩
    · rintro ⟨_, _, h, hf⟩
      cases h
      exact hf
  | error e s₁ => simp

theorem bind_eq_error : (act >>= f) s = .error e s' ↔
    act s = .error e s' ∨ ∃ x s₁, act s = .ok x s₁ ∧ f x s₁ = .error e s' := by
  rw [bind_run]
  cases act s with
  | ok x s₁ =>
    constructor
    · intro h
      exact Or.inr ⟨x, s₁, rfl, h⟩
    · rintro (h | ⟨_, _, h, hf⟩)
      · cases h
      · cases h
        exact hf
  | error e s₁ => simp

theorem attempt_run (w : Write) (s : Store) :
    attempt env w s = match env.refusal s.tried w with
      | none => .ok () { s with tried := s.tried + 1 }
      | some reason => .error (.storage reason) { s with tried := s.tried + 1 } := by
  unfold attempt
  cases env.refusal s.tried w <;> rfl

theorem after_attempt (w : Write) (s : Store) :
    after (attempt env w) s = { s with tried := s.tried + 1 } := by
  unfold after
  rw [attempt_run]
  cases env.refusal s.tried w <;> rfl

theorem attempt_of_none {w : Write} (h : env.refusal s.tried w = none) :
    attempt env w s = .ok () { s with tried := s.tried + 1 } := by
  rw [attempt_run, h]

theorem of_attempt {w : Write} {u : Unit} (h : attempt env w s = .ok u s') :
    env.refusal s.tried w = none ∧ s' = { s with tried := s.tried + 1 } := by
  rw [attempt_run] at h
  cases hr : env.refusal s.tried w with
  | none =>
    rw [hr] at h
    cases h
    exact ⟨rfl, rfl⟩
  | some reason =>
    rw [hr] at h
    cases h

theorem attempt_error {w : Write} (h : attempt env w s = .error e s') :
    s' = { s with tried := s.tried + 1 } := by
  rw [← after_attempt w s, after, h]

/-- An action that only looks whether something can be done. -/
def Checks (act : Action Unit) (p : Prop) : Prop :=
  ∀ s, (p → act s = .ok () s) ∧ (¬ p → ∃ e, act s = .error e s)

theorem Checks.ok {act : Action Unit} {p : Prop} (h : Checks act p) (hp : p) (s : Store) :
    act s = .ok () s := (h s).1 hp

theorem Checks.of_ok {act : Action Unit} {p : Prop} (h : Checks act p) {u : Unit}
    (hs : act s = .ok u s') : p ∧ s' = s := by
  by_cases hp : p
  · rw [(h s).1 hp] at hs
    cases hs
    exact ⟨hp, rfl⟩
  · obtain ⟨e, he⟩ := (h s).2 hp
    rw [he] at hs
    cases hs

theorem Checks.of_error {act : Action Unit} {p : Prop} (h : Checks act p)
    (hs : act s = .error e s') : s' = s := by
  by_cases hp : p
  · rw [(h s).1 hp] at hs
    cases hs
  · obtain ⟨e', he⟩ := (h s).2 hp
    rw [he] at hs
    cases hs
    rfl

theorem Checks.after {act : Action Unit} {p : Prop} (h : Checks act p) (s : Store) :
    after act s = s := by
  unfold Action.after
  cases hs : act s with
  | ok x s' => exact (h.of_ok hs).2
  | error e s' => exact h.of_error hs

theorem bindInteger_checks (n : Int) : Checks (bindInteger n) (fitsSigned n) := by
  intro s
  unfold bindInteger
  by_cases hn : fitsSigned n <;> simp [hn]

theorem bindInstant_checks (t : Instant) : Checks (bindInstant t) t.isDated := by
  intro s
  unfold bindInstant
  by_cases ht : t.isDated <;> simp [ht]

theorem bindText_checks (t : Text) : Checks (bindText env t) (env.dialect.unfit t = none) := by
  intro s
  unfold bindText
  cases env.dialect.unfit t <;> simp

theorem Checks.bind {act act' : Action Unit} {p q : Prop} (h : Checks act p)
    (h' : Checks act' q) : Checks (do act; act') (p ∧ q) := by
  intro s
  by_cases hp : p
  · rw [bind_of_ok ((h s).1 hp)]
    exact ⟨fun hq => (h' s).1 hq.2, fun hq => (h' s).2 fun hq' => hq ⟨hp, hq'⟩⟩
  · obtain ⟨e, he⟩ := (h s).2 hp
    exact ⟨fun hq => absurd hq.1 hp, fun _ => ⟨e, bind_of_error he⟩⟩

theorem Checks.congr {act : Action Unit} {p q : Prop} (h : Checks act p) (hpq : p ↔ q) :
    Checks act q := by
  intro s
  rw [← hpq]
  exact h s

theorem bindTexts_checks (ts : List (Option Text)) : Checks (bindTexts env ts) (env.Fits ts) := by
  induction ts with
  | nil =>
    intro s
    simp [bindTexts, Conditions.Fits]
  | cons t rest ih =>
    cases t with
    | none =>
      apply ih.congr
      simp [Conditions.Fits]
    | some t =>
      apply ((bindText_checks t).bind ih).congr
      simp [Conditions.Fits]

theorem savepoint_of_ok {x : α} (h : act s = .ok x s') : savepoint act s = .ok x s' := by
  unfold savepoint
  rw [h]

theorem savepoint_of_error (h : act s = .error e s') :
    savepoint act s = .error e { s' with tables := s.tables, journal := s.journal } := by
  unfold savepoint
  rw [h]

theorem of_savepoint {x : α} (h : savepoint act s = .ok x s') : act s = .ok x s' := by
  cases ha : act s with
  | ok y s₁ => rwa [savepoint_of_ok ha] at h
  | error e s₁ =>
    rw [savepoint_of_error ha] at h
    cases h

theorem savepoint_error (h : savepoint act s = .error e s') :
    ∃ s₁, act s = .error e s₁ ∧ s' = { s₁ with tables := s.tables, journal := s.journal } := by
  cases ha : act s with
  | ok y s₁ =>
    rw [savepoint_of_ok ha] at h
    cases h
  | error e' s₁ =>
    rw [savepoint_of_error ha] at h
    cases h
    exact ⟨s₁, rfl, rfl⟩

theorem recover_of_ok {x : α} (h : act s = .ok x s') : recover act s = .ok (.ok x) s' := by
  unfold recover
  rw [h]

theorem recover_of_error (h : act s = .error e s') : recover act s = .ok (.error e) s' := by
  unfold recover
  rw [h]

theorem transaction_of_error (h : act s = .error e s') :
    transaction env act s = .error e { s' with tables := s.tables, journal := s.journal } :=
  savepoint_of_error (bind_of_error h)

theorem transaction_of_ok {x : α} (h : act s = .ok x s')
    (hc : env.refusal s'.tried .commit = none) :
    transaction env act s = .ok x { s' with tried := s'.tried + 1 } := by
  apply savepoint_of_ok
  rw [bind_of_ok h, bind_run, attempt_run, hc]
  rfl

theorem transaction_eq_ok {x : α} : transaction env act s = .ok x s' ↔
    ∃ s₁, act s = .ok x s₁ ∧ env.refusal s₁.tried .commit = none ∧
      s' = { s₁ with tried := s₁.tried + 1 } := by
  constructor
  · intro h
    cases ha : act s with
    | error e s₁ =>
      rw [transaction_of_error ha] at h
      cases h
    | ok y s₁ =>
      cases hc : env.refusal s₁.tried .commit with
      | none =>
        rw [transaction_of_ok ha hc] at h
        cases h
        exact ⟨s₁, rfl, hc, rfl⟩
      | some reason =>
        have he : (do let x ← act; attempt env .commit; return x) s =
            .error (.storage reason) { s₁ with tried := s₁.tried + 1 } := by
          rw [bind_of_ok ha, bind_run, attempt_run, hc]
        rw [transaction, savepoint_of_error he] at h
        cases h
  · rintro ⟨s₁, ha, hc, rfl⟩
    exact transaction_of_ok ha hc

end Action
end AddressBook
