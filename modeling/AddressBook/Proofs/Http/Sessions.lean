import AddressBook.Proofs.Http.Atomicity

/-!
Requests one after another. What they do to the store are steps of the service, one for each request
that asks for an operation; a status of 500 means that a report could not be shown, or that the
operation failed in a way that no client can mend.
-/
namespace AddressBook.Http

open AddressBook.Action

/-- A request and the conditions that it meets. -/
structure Call where
  env : Conditions
  request : Request

/-- The service after some requests. -/
def session (s : Service) (calls : List Call) : Service :=
  calls.foldl (fun s c => (respond c.env s c.request).2) s

/-- Why the faults of a request for an endpoint cannot be shown, if it has any and they cannot. -/
def Endpoint.unshowable? (e : Endpoint) (s : Service) (r : Request) : Option Failure :=
  let payload := if e.takesPayload then r.payload.toOption else some .absent
  payload.bind fun p =>
    match e.operation? s.settings r p with
    | some (.error issues) => p.unshowable? issues
    | _ => none

/-- Why the faults of a request cannot be shown, if it has faults and they cannot. -/
def unshowable? (s : Service) (r : Request) : Option Failure :=
  match lookup r.method (pathOf r.path) with
  | .endpoint e => e.unshowable? s r
  | _ => none

variable {env : Conditions} {s : Service} {r : Request} {e : Endpoint} {calls : List Call}

/-! ### What a request does to the store -/

/-- The service is as it was, or it has carried out the operation that was asked for. -/
def Advanced (env : Conditions) (s : Service) (op? : Option Operation) (s' : Service) : Prop :=
  s' = s ∨ ∃ op, op? = some op ∧ s' = { s with store := s.store.next ⟨env, op⟩ }

theorem advanced_carryOut (s : Service) (r : Request) (p : Payload) (e : Endpoint) :
    Advanced env s ((e.operation? s.settings r p).bind Except.toOption)
      (carryOut env s r p e).2 := by
  unfold carryOut
  cases hop : e.operation? s.settings r p with
  | none => exact .inl rfl
  | some checked =>
    cases hrun : s.running with
    | false => exact .inl rfl
    | true =>
      cases checked with
      | error issues => exact .inl rfl
      | ok op =>
        refine .inr ⟨op, rfl, ?_⟩
        change (s.run (op.perform env)).2 = _
        rw [run_perform hrun]

theorem advanced_serve (s : Service) (r : Request) (e : Endpoint) :
    Advanced env s (e.asked? s r) (serve env s r e).2 := by
  unfold serve Endpoint.asked?
  cases hp : e.takesPayload with
  | true =>
    simp only [if_true]
    cases r.payload with
    | error fault => exact .inl rfl
    | ok p => exact advanced_carryOut s r p e
  | false =>
    simp only [Bool.false_eq_true, if_false]
    exact advanced_carryOut s r .absent e

theorem advanced_respond (env : Conditions) (s : Service) (r : Request) :
    Advanced env s (asked? s r) (respond env s r).2 := by
  unfold respond asked?
  cases lookup r.method (pathOf r.path) with
  | endpoint e => exact advanced_serve s r e
  | wrongMethod => exact .inl rfl
  | misspelt => exact .inl rfl
  | unknown => exact .inl rfl

/-- Requests come to steps of the service. -/
theorem session_steps (s : Service) (calls : List Call) :
    ∃ steps, session s calls = { s with store := s.store.run steps } := by
  induction calls generalizing s with
  | nil => exact ⟨[], rfl⟩
  | cons c rest ih =>
    obtain ⟨steps, hsteps⟩ := ih (respond c.env s c.request).2
    change session s (c :: rest) = _ at hsteps
    obtain hsame | ⟨op, -, hnext⟩ := advanced_respond c.env s c.request
    · exact ⟨steps, by rw [hsteps, hsame]⟩
    · exact ⟨⟨c.env, op⟩ :: steps, by rw [hsteps, hnext]; rfl⟩

/-! ### Statuses -/

theorem status_ofIssues (p : Payload) (issues : List Schema.Issue) :
    (Response.ofIssues p issues).status < 500 ↔ p.unshowable? issues = none := by
  unfold Response.ofIssues
  cases p.unshowable? issues <;> simp [Response.ofFailure, Response.status]

theorem status_ofPayloadError (f : PayloadError) : (Response.ofPayloadError f).status < 500 := by
  cases f <;> simp [Response.ofPayloadError, Response.detail, Response.status]

/-- The status of a response to an operation that was asked for. -/
theorem status_perform (hrun : s.running) (op : Operation) :
    (Response.ofResult e.success (s.run (op.perform env)).1).status < 500 ↔
      ∀ f, s.store.answer ⟨env, op⟩ = .error f → (Response.ofFailure f).status < 500 := by
  rw [run_perform hrun]
  cases s.store.answer ⟨env, op⟩ with
  | ok a =>
    have hlow := success_lt e
    simp only [Response.ofResult, Response.status, reduceCtorEq, false_implies, implies_true,
      iff_true]
    omega
  | error f => simp [Response.ofResult]

theorem status_carryOut (hrun : s.running) (p : Payload) :
    (carryOut env s r p e).1.status < 500 ↔
      (match e.operation? s.settings r p with
        | some (.error issues) => p.unshowable? issues
        | _ => none) = none ∧
      ∀ op, (e.operation? s.settings r p).bind Except.toOption = some op →
        ∀ f, s.store.answer ⟨env, op⟩ = .error f → (Response.ofFailure f).status < 500 := by
  unfold carryOut
  cases e.operation? s.settings r p with
  | none => simp [healthy, Response.status]
  | some checked =>
    cases checked with
    | error issues => simp [hrun, status_ofIssues, Except.toOption]
    | ok op =>
      simp only [hrun, Bool.not_true, Bool.false_eq_true, if_false, Option.bind_some,
        Except.toOption, Option.some.injEq, forall_eq', true_and]
      exact status_perform hrun op

theorem status_serve (hrun : s.running) :
    (serve env s r e).1.status < 500 ↔ e.unshowable? s r = none ∧
      ∀ op, e.asked? s r = some op →
        ∀ f, s.store.answer ⟨env, op⟩ = .error f → (Response.ofFailure f).status < 500 := by
  unfold serve Endpoint.unshowable? Endpoint.asked?
  cases hp : e.takesPayload with
  | true =>
    simp only [if_true]
    cases hread : r.payload with
    | error fault => simp [Except.toOption, status_ofPayloadError]
    | ok p =>
      simp only [Except.toOption, Option.bind_some]
      exact status_carryOut hrun p
  | false =>
    simp only [Bool.false_eq_true, if_false, Option.bind_some]
    exact status_carryOut hrun .absent

/-- When a request is not answered by a status of 500 or above. -/
theorem status_respond (hrun : s.running) :
    (respond env s r).1.status < 500 ↔ unshowable? s r = none ∧
      ∀ op, asked? s r = some op →
        ∀ f, s.store.answer ⟨env, op⟩ = .error f → (Response.ofFailure f).status < 500 := by
  have hbody : ∀ a : Response,
      (if r.method = .head then a.withoutBody else a).status = a.status := by
    intro a
    split
    · exact status_withoutBody _
    · rfl
  unfold respond unshowable? asked?
  cases lookup r.method (pathOf r.path) with
  | endpoint e =>
    rw [hbody]
    exact status_serve hrun
  | wrongMethod =>
    rw [hbody]
    simp [Response.detail, Response.status]
  | misspelt =>
    rw [hbody]
    simp [Response.status]
  | unknown =>
    rw [hbody]
    simp [Response.detail, Response.status]

end AddressBook.Http
