import AddressBook.Proofs.History.Recording

/-!
Actions that run side by side on two stores which differ at most in their snapshots. Unless an
action looks at snapshots, it comes to the same on both, whichever are refused on either side.
-/
namespace AddressBook

/-- The tables without the snapshots. -/
def Tables.unfiled (t : Tables) : Tables := { t with snapshots := [] }

/-- The store without its snapshots, and without what is known of them elsewhere. -/
def Store.unfiled (s : Store) : Store :=
  { s with
    tables := s.tables.unfiled
    journal := []
    issued := { s.issued with snapshots := 0 } }

/-- Two stores differ at most in their snapshots. -/
def Alike (s s' : Store) : Prop := s.unfiled = s'.unfiled

/-- Whether a write is that of a snapshot. -/
def Write.isSnapshot : Write → Bool
  | insertSnapshot _ _ => true
  | _ => false

/-- Two conditions differ at most in which snapshots are refused, and in the room for searches. -/
structure Conditions.Agree (env env' : Conditions) : Prop where
  now : env.now = env'.now
  dialect : env.dialect = env'.dialect
  refusal : ∀ n w, w.isSnapshot = false → env.refusal n w = env'.refusal n w

section

open AddressBook.Action

variable {α β : Type} {env env' : Conditions} {act act' : Action α} {f f' : α → Action β}
  {s s' : Store} {R : α → α → Prop} {Q : β → β → Prop}

/-- What can be seen without snapshots is the same in stores that are alike. -/
theorem Alike.view (h : Alike s s') (look : Store → β) (hl : ∀ u : Store, look u.unfiled = look u) :
    look s = look s' := by
  rw [← hl s, ← hl s']
  exact congrArg look h

theorem Alike.contacts (h : Alike s s') : s.tables.contacts = s'.tables.contacts :=
  h.view (fun u => u.tables.contacts) fun _ => rfl

theorem Alike.tried (h : Alike s s') : s.tried = s'.tried := h.view Store.tried fun _ => rfl

/-- A change that does the same with snapshots and without keeps two stores alike. -/
theorem Alike.map {g : Store → Store} (h : Alike s s')
    (hg : ∀ u : Store, (g u).unfiled = (g u.unfiled).unfiled) : Alike (g s) (g s') := by
  unfold Alike at h ⊢
  rw [hg s, h, ← hg s']

/-- Two actions come to the same on stores that are alike, as far as a relation of their results
tells, and leave them alike. -/
def Parallel (R : α → α → Prop) (act act' : Action α) : Prop :=
  ∀ s s', Alike s s' →
    (∃ x t x' t', act s = .ok x t ∧ act' s' = .ok x' t' ∧ R x x' ∧ Alike t t') ∨
    ∃ e t t', act s = .error e t ∧ act' s' = .error e t' ∧ Alike t t'

theorem parallel_pure {x x' : α} (h : R x x') : Parallel R (pure x) (pure x') := by
  intro s s' hs
  exact Or.inl ⟨x, s, x', s', rfl, rfl, h, hs⟩

theorem parallel_throw (e : Failure) : Parallel R (throw e : Action α) (throw e) := by
  intro s s' hs
  exact Or.inr ⟨e, s, s', rfl, rfl, hs⟩

theorem Parallel.bind (h : Parallel R act act') (hf : ∀ x x', R x x' → Parallel Q (f x) (f' x')) :
    Parallel Q (act >>= f) (act' >>= f') := by
  intro s s' hs
  obtain ⟨x, t, x', t', ha, ha', hx, ht⟩ | ⟨e, t, t', ha, ha', ht⟩ := h s s' hs
  · rw [bind_of_ok ha, bind_of_ok ha']
    exact hf x x' hx t t' ht
  · exact Or.inr ⟨e, t, t', bind_of_error ha, bind_of_error ha', ht⟩

/-- The rule for actions that have the same result. -/
theorem Parallel.seq (h : Parallel Eq act act') (hf : ∀ x, Parallel Q (f x) (f' x)) :
    Parallel Q (act >>= f) (act' >>= f') := by
  apply h.bind
  rintro x _ rfl
  exact hf x

theorem Parallel.ite {c : Prop} [Decidable c] {act₁ act₁' : Action α} (h : Parallel R act act')
    (h₁ : Parallel R act₁ act₁') :
    Parallel R (if c then act else act₁) (if c then act' else act₁') := by
  split
  · exact h
  · exact h₁

theorem parallel_tables : Parallel (fun t t' => t.unfiled = t'.unfiled) tables tables := by
  intro s s' hs
  exact Or.inl ⟨_, s, _, s', rfl, rfl, hs.view (fun u => u.tables.unfiled) fun _ => rfl, hs⟩

/-- The rule for actions that cannot fail, and that do not look at snapshots. -/
theorem parallel_of_run {x : Store → α} {g : Store → Store}
    (hrun : ∀ s, act s = .ok (x s) (g s)) (hx : ∀ u : Store, x u.unfiled = x u)
    (hg : ∀ u : Store, (g u).unfiled = (g u.unfiled).unfiled) : Parallel Eq act act := by
  intro s s' hs
  exact Or.inl ⟨x s, g s, x s', g s', hrun s, hrun s', hs.view x hx, hs.map hg⟩

theorem parallel_reports : Parallel Eq reports reports :=
  parallel_of_run (g := id) (fun _ => rfl) (fun _ => rfl) fun _ => rfl

theorem parallel_report (p : Progress) : Parallel Eq (report p) (report p) :=
  parallel_of_run (g := fun s => { s with progress := p :: s.progress }) (fun _ => rfl)
    (fun _ => rfl) fun _ => rfl

theorem parallel_newContactId : Parallel Eq newContactId newContactId :=
  parallel_of_run newContactId_run (fun _ => rfl) fun _ => rfl

theorem parallel_newUploadId : Parallel Eq newUploadId newUploadId :=
  parallel_of_run newUploadId_run (fun _ => rfl) fun _ => rfl

theorem parallel_change {g : Tables → Tables}
    (hg : ∀ t : Tables, (g t).unfiled = (g t.unfiled).unfiled) :
    Parallel Eq (change g) (change g) :=
  parallel_of_run (g := fun s => { s with tables := g s.tables }) (fun _ => rfl) (fun _ => rfl)
    fun u => by simp only [Store.unfiled, hg u.tables]

/-- The journal is no part of what is compared. -/
theorem parallel_note (r r' : Revision) : Parallel Eq (note r) (note r') := by
  intro s s' hs
  exact Or.inl ⟨(), _, (), _, note_run r s, note_run r' s', rfl, hs⟩

theorem parallel_attempt (h : env.Agree env') {w : Write} (hw : w.isSnapshot = false) :
    Parallel Eq (attempt env w) (attempt env' w) := by
  intro s s' hs
  have ht : Alike { s with tried := s.tried + 1 } { s' with tried := s'.tried + 1 } :=
    hs.map (g := fun u => { u with tried := u.tried + 1 }) fun _ => rfl
  rw [attempt_run, attempt_run, ← h.refusal _ w hw, ← hs.tried]
  cases env.refusal s.tried w with
  | none => exact Or.inl ⟨_, _, _, _, rfl, rfl, rfl, hs.tried ▸ ht⟩
  | some reason => exact Or.inr ⟨_, _, _, rfl, rfl, hs.tried ▸ ht⟩

theorem parallel_bindInteger (n : Int) : Parallel Eq (bindInteger n) (bindInteger n) :=
  Parallel.ite (parallel_pure rfl) (parallel_throw _)

theorem parallel_bindInstant (t : Instant) : Parallel Eq (bindInstant t) (bindInstant t) :=
  Parallel.ite (parallel_pure rfl) (parallel_throw _)

theorem parallel_bindTexts (h : env.Agree env') (ts : List (Option Text)) :
    Parallel Eq (bindTexts env ts) (bindTexts env' ts) := by
  induction ts with
  | nil => exact parallel_pure rfl
  | cons t rest ih =>
    cases t with
    | none => exact ih
    | some t =>
      refine Parallel.seq ?_ fun _ => ih
      unfold bindText
      rw [h.dialect]
      split
      · exact parallel_pure rfl
      · exact parallel_throw _

theorem parallel_ofExcept {ε : Type} (failure : ε → Failure) (x : Except ε α) :
    Parallel Eq (ofExcept failure x) (ofExcept failure x) := by
  cases x with
  | ok x => exact parallel_pure rfl
  | error e => exact parallel_throw _

theorem Parallel.savepoint (h : Parallel R act act') :
    Parallel R (savepoint act) (savepoint act') := by
  intro s s' hs
  obtain ⟨x, t, x', t', ha, ha', hx, ht⟩ | ⟨e, t, t', ha, ha', ht⟩ := h s s' hs
  · exact Or.inl ⟨x, t, x', t', savepoint_of_ok ha, savepoint_of_ok ha', hx, ht⟩
  · refine Or.inr ⟨e, _, _, savepoint_of_error ha, savepoint_of_error ha', ?_⟩
    have hback : ({ t.unfiled with tables := s.unfiled.tables } : Store) =
        { t'.unfiled with tables := s'.unfiled.tables } := by
      rw [show t.unfiled = t'.unfiled from ht, show s.unfiled = s'.unfiled from hs]
    exact hback

theorem Parallel.recover (h : Parallel Eq act act') :
    Parallel Eq (recover act) (recover act') := by
  intro s s' hs
  obtain ⟨x, t, x', t', ha, ha', rfl, ht⟩ | ⟨e, t, t', ha, ha', ht⟩ := h s s' hs
  · exact Or.inl ⟨_, t, _, t', recover_of_ok ha, recover_of_ok ha', rfl, ht⟩
  · exact Or.inl ⟨_, t, _, t', recover_of_error ha, recover_of_error ha', rfl, ht⟩

theorem Parallel.transaction (henv : env.Agree env') (h : Parallel Eq act act') :
    Parallel Eq (transaction env act) (transaction env' act') := by
  apply Parallel.savepoint
  apply h.seq
  intro x
  exact (parallel_attempt henv rfl).seq fun _ => parallel_pure rfl

end

end AddressBook
