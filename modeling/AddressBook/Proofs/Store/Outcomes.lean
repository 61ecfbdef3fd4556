import AddressBook.Proofs.Store.Running

/-!
How actions end: in what is asked for, or in a failure for a reason that is known. A refused write
may end any of them.
-/
namespace AddressBook

open AddressBook.Action

/-- No write is refused. -/
def Conditions.Calm (env : Conditions) : Prop := ∀ n w, env.refusal n w = none

/-- A failure tells that a write was refused. -/
def Conditions.Refuses (env : Conditions) (e : Failure) : Prop :=
  ∃ n w reason, env.refusal n w = some reason ∧ e = .storage reason

variable {α β : Type} {env : Conditions} {act : Action α} {f : α → Action β} {s s' : Store}
  {F : Failure → Prop} {Q Q' : α → Store → Prop} {R : β → Store → Prop}

theorem Conditions.Calm.not_refuses (h : env.Calm) (e : Failure) : ¬ env.Refuses e := by
  rintro ⟨n, w, reason, hr, -⟩
  rw [h n w] at hr
  cases hr

theorem Conditions.calm_fair (now : Instant) : (Conditions.fair now).Calm := fun _ _ => rfl

/-- An action that succeeds reaches what is asked for; one that fails does so for a given reason,
or because a write is refused. -/
def Yields (env : Conditions) (act : Action α) (s : Store) (F : Failure → Prop)
    (Q : α → Store → Prop) : Prop :=
  match act s with
  | .ok x s' => Q x s'
  | .error e _ => F e ∨ env.Refuses e

theorem Yields.ok {x : α} (h : Yields env act s F Q) (ha : act s = .ok x s') : Q x s' := by
  unfold Yields at h
  rwa [ha] at h

theorem Yields.error {e : Failure} (h : Yields env act s F Q) (ha : act s = .error e s') :
    F e ∨ env.Refuses e := by
  unfold Yields at h
  rwa [ha] at h

theorem Yields.intro (hok : ∀ x s', act s = .ok x s' → Q x s')
    (herror : ∀ e s', act s = .error e s' → F e ∨ env.Refuses e) : Yields env act s F Q := by
  unfold Yields
  cases ha : act s with
  | ok x s' => exact hok x s' ha
  | error e s' => exact herror e s' ha

theorem Yields.mono (h : Yields env act s F Q) (hq : ∀ x s', Q x s' → Q' x s') :
    Yields env act s F Q' :=
  .intro (fun x s' ha => hq x s' (h.ok ha)) fun _ _ ha => h.error ha

theorem Yields.bind (h : Yields env act s F Q) (hf : ∀ x s', Q x s' → Yields env (f x) s' F R) :
    Yields env (act >>= f) s F R := by
  apply Yields.intro
  · intro y s' ha
    obtain ⟨x, s₁, ha, hfx⟩ := bind_eq_ok.1 ha
    exact (hf x s₁ (h.ok ha)).ok hfx
  · intro e s' ha
    obtain ha | ⟨x, s₁, ha, hfx⟩ := bind_eq_error.1 ha
    · exact h.error ha
    · exact (hf x s₁ (h.ok ha)).error hfx

theorem yields_pure {x : α} (h : Q x s) : Yields env (pure x) s F Q := h

theorem yields_throw {e : Failure} (h : F e) : Yields env (throw e) s F Q := .inl h

theorem yields_tables : Yields env tables s F fun t s' => t = s.tables ∧ s' = s := ⟨rfl, rfl⟩

theorem yields_change (g : Tables → Tables) :
    Yields env (change g) s F fun _ s' => s' = { s with tables := g s.tables } := rfl

theorem yields_attempt (w : Write) :
    Yields env (attempt env w) s F fun _ s' => s' = { s with tried := s.tried + 1 } := by
  apply Yields.intro
  · intro u s' h
    exact (of_attempt h).2
  · intro e s' h
    rw [attempt_run] at h
    cases hr : env.refusal s.tried w with
    | none =>
      rw [hr] at h
      cases h
    | some reason =>
      rw [hr] at h
      cases h
      exact .inr ⟨_, _, reason, hr, rfl⟩

theorem bindTexts_error {ts : List (Option Text)} {e : Failure}
    (h : bindTexts env ts s = .error e s') : ∃ run, e = .unencodable run := by
  induction ts with
  | nil => cases h
  | cons t rest ih =>
    cases t with
    | none => exact ih h
    | some t =>
      obtain ht | ⟨_, s₁, ht, hrest⟩ := bind_eq_error.1 h
      · unfold bindText at ht
        cases hu : env.dialect.unfit t with
        | none =>
          rw [hu] at ht
          cases ht
        | some run =>
          rw [hu] at ht
          cases ht
          exact ⟨run, rfl⟩
      · obtain ⟨-, rfl⟩ := (bindText_checks t).of_ok ht
        exact ih hrest

theorem yields_bindTexts (ts : List (Option Text))
    (h : ∀ run, ¬ env.Fits ts → F (.unencodable run)) :
    Yields env (bindTexts env ts) s F fun _ s' => env.Fits ts ∧ s' = s := by
  apply Yields.intro
  · intro u s' hs
    exact (bindTexts_checks ts).of_ok hs
  · intro e s' hs
    obtain ⟨run, rfl⟩ := bindTexts_error hs
    refine .inl (h run fun hfits => ?_)
    rw [(bindTexts_checks ts).ok hfits] at hs
    cases hs

theorem Yields.transaction (h : Yields env act s F Q) :
    Yields env (transaction env act) s F fun x s' =>
      ∃ s₁, Q x s₁ ∧ s' = { s₁ with tried := s₁.tried + 1 } := by
  apply Yields.intro
  · intro x s' ha
    obtain ⟨s₁, hact, -, rfl⟩ := transaction_eq_ok.1 ha
    exact ⟨s₁, h.ok hact, rfl⟩
  · intro e s' ha
    obtain ⟨s₁, hbody, -⟩ := savepoint_error ha
    obtain hact | ⟨x, s₂, -, hc⟩ := bind_eq_error.1 hbody
    · exact h.error hact
    · have hcommit : Yields env (do attempt env .commit; return x) s₂ F fun _ _ => True :=
        (yields_attempt _).bind fun _ _ _ => yields_pure trivial
      exact hcommit.error hc

end AddressBook
