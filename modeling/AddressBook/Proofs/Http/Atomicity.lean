import AddressBook.Http.Respond
import AddressBook.Proofs.Schema.Reading
import AddressBook.Proofs.Service.Run

/-!
Requests are all or nothing: after a response that tells of an error the tables are what they were,
and after any other one they are what the operation that was asked for makes of them.
-/
namespace AddressBook.Http

open AddressBook.Action

/-- The operation that a request for an endpoint asks for, if it has no fault. -/
def Endpoint.asked? (e : Endpoint) (s : Service) (r : Request) : Option Operation :=
  let payload := if e.takesPayload then r.payload.toOption else some .absent
  payload.bind fun p => (e.operation? s.settings r p).bind Except.toOption

/-- The operation that a request asks for, if it has no fault. -/
def asked? (s : Service) (r : Request) : Option Operation :=
  match lookup r.method (pathOf r.path) with
  | .endpoint e => e.asked? s r
  | _ => none

/-- What a response and the service behind it tell of an operation that may have been asked for. -/
structure Atomic (env : Conditions) (s : Service) (op? : Option Operation)
    (answer : Response × Service) : Prop where
  /-- An error leaves no trace. -/
  refused : 400 ≤ answer.1.status → answer.2.store.tables = s.store.tables
  idle : op? = none → answer.2.store.tables = s.store.tables
  /-- Without an error the operation came to its end, and all that it wrote is there. -/
  served : answer.1.status < 400 → ∀ op, op? = some op →
    ∃ a s', op.run env s.store = .ok a s' ∧ answer.2.store.tables = s'.tables

variable {env : Conditions} {s : Service} {r : Request} {e : Endpoint} {p : Payload}

/-- A response that leaves the service alone. It is an error, or nothing was asked for. -/
theorem Atomic.of_same {answer : Response} {op? : Option Operation}
    (h : 400 ≤ answer.status ∨ op? = none) : Atomic env s op? (answer, s) := by
  refine ⟨fun _ => rfl, fun _ => rfl, ?_⟩
  intro hlow op hop
  rcases h with h | h
  · exact absurd h (Nat.not_le.2 hlow)
  · rw [h] at hop
    cases hop

theorem status_ofFailure (f : Failure) : 400 ≤ (Response.ofFailure f).status := by
  cases f with
  | domain e => cases e <;> simp [Response.ofFailure, Response.ofDomainError, Response.status,
      DomainError.resource?]
  | _ => simp [Response.ofFailure, Response.status]

theorem status_withoutBody (a : Response) : a.withoutBody.status = a.status := by
  cases a <;> rfl

theorem success_lt (e : Endpoint) : e.success < 400 := by
  cases e <;> simp [Endpoint.success]

/-- It does not matter whether the body is left out. -/
theorem Atomic.withoutBody {q : Prop} [Decidable q] {op? : Option Operation}
    {answer : Response × Service} (h : Atomic env s op? answer) :
    Atomic env s op? (if q then answer.1.withoutBody else answer.1, answer.2) := by
  have hstatus : (if q then answer.1.withoutBody else answer.1).status = answer.1.status := by
    split
    · exact status_withoutBody _
    · rfl
  obtain ⟨refused, idle, served⟩ := h
  exact ⟨fun hs => refused (by rwa [hstatus] at hs), idle,
    fun hs => served (by rwa [hstatus] at hs)⟩

/-- Carrying out an operation succeeds as a whole, or fails without a trace. -/
theorem atomic_perform (hrun : s.running) (op : Operation) :
    Atomic env s (some op)
      (.ofResult e.success (s.run (op.perform env)).1, (s.run (op.perform env)).2) := by
  unfold Service.run
  rw [if_pos hrun]
  cases h : op.perform env s.store with
  | ok a s' =>
    obtain ⟨s₁, hop, -, rfl⟩ := transaction_eq_ok.1 h
    refine ⟨?_, by simp, ?_⟩
    · intro hs
      exact absurd hs (Nat.not_le.2 (success_lt e))
    · rintro - op' hop'
      cases hop'
      exact ⟨a, s₁, hop, rfl⟩
  | error f s' =>
    obtain ⟨s₁, -, rfl⟩ := savepoint_error h
    refine ⟨fun _ => rfl, by simp, ?_⟩
    intro hs
    exact absurd (status_ofFailure f) (Nat.not_le.2 hs)

theorem atomic_carryOut (s : Service) (r : Request) (p : Payload) (e : Endpoint) :
    Atomic env s ((e.operation? s.settings r p).bind Except.toOption) (carryOut env s r p e) := by
  unfold carryOut
  cases hop : e.operation? s.settings r p with
  | none => exact .of_same (.inr rfl)
  | some checked =>
    by_cases hrun : s.running
    · simp only [hrun, Bool.not_true, Bool.false_eq_true, if_false]
      cases checked with
      | error issues => exact .of_same (.inr rfl)
      | ok op => exact atomic_perform hrun op
    · simp only [hrun, Bool.not_false, if_true]
      exact .of_same (.inl (by simp [Response.status]))

theorem atomic_serve (s : Service) (r : Request) (e : Endpoint) :
    Atomic env s (e.asked? s r) (serve env s r e) := by
  unfold serve Endpoint.asked?
  by_cases hp : e.takesPayload
  · simp only [hp, if_true]
    cases r.payload with
    | error fault => exact .of_same (.inr rfl)
    | ok p => exact atomic_carryOut s r p e
  · simp only [hp, Bool.false_eq_true, if_false]
    exact atomic_carryOut s r .absent e

/-- Every request is all or nothing, whatever the store refuses in the course of it. -/
theorem respond_atomic (env : Conditions) (s : Service) (r : Request) :
    Atomic env s (asked? s r) (respond env s r) := by
  unfold respond asked?
  cases lookup r.method (pathOf r.path) with
  | endpoint e => exact (atomic_serve s r e).withoutBody
  | wrongMethod => exact (Atomic.of_same (.inr rfl)).withoutBody
  | misspelt => exact (Atomic.of_same (.inr rfl)).withoutBody
  | unknown => exact (Atomic.of_same (.inr rfl)).withoutBody

/-! ### Requests without a fault -/

theorem method_ne_head (h : lookup r.method (pathOf r.path) = .endpoint e) : r.method ≠ .head := by
  have hroutes : ∀ route ∈ routes, route.method ≠ .head := by simp [routes, Route.api]
  unfold lookup at h
  split at h
  next m e' hfound =>
    obtain ⟨route, hroute, hplace⟩ := List.mem_filterMap.1 (List.mem_of_find?_eq_some hfound)
    obtain ⟨_, -, hpair⟩ := Option.map_eq_some_iff.1 hplace
    have hm : m = r.method := by simpa using List.find?_some hfound
    rw [← hm, ← (Prod.mk.inj hpair).1]
    exact hroutes route hroute
  next => cases h
  next => split at h <;> cases h

theorem run_perform (hrun : s.running) (op : Operation) : s.run (op.perform env) =
    (s.store.answer ⟨env, op⟩, { s with store := s.store.next ⟨env, op⟩ }) := by
  unfold Service.run Store.answer Store.next after
  rw [if_pos hrun]
  cases op.perform env s.store <;> rfl

theorem Endpoint.asked_of_payload {op : Operation} (htakes : e.takesPayload)
    (hp : r.payload = .ok p) (hop : e.operation? s.settings r p = some (.ok op)) :
    e.asked? s r = some op := by
  unfold asked?
  rw [if_pos htakes, hp]
  dsimp only [Except.toOption, Option.bind_some]
  rw [hop]
  rfl

/-- A request without a fault is answered by the operation that it asks for, which is the next step
of the store. -/
theorem respond_of_asked (env : Conditions) {op : Operation} (hrun : s.running)
    (hlookup : lookup r.method (pathOf r.path) = .endpoint e) (hasked : e.asked? s r = some op) :
    respond env s r = (.ofResult e.success (s.store.answer ⟨env, op⟩),
      { s with store := s.store.next ⟨env, op⟩ }) := by
  obtain ⟨p, hpayload, hp⟩ := Option.bind_eq_some_iff.1 hasked
  obtain ⟨checked, hchecked, hop⟩ := Option.bind_eq_some_iff.1 hp
  have hcarry : carryOut env s r p e = (.ofResult e.success (s.store.answer ⟨env, op⟩),
      { s with store := s.store.next ⟨env, op⟩ }) := by
    rw [carryOut, hchecked, Schema.of_toOption hop]
    simp only [hrun, Bool.not_true, Bool.false_eq_true, if_false, run_perform]
  have hserve : serve env s r e = carryOut env s r p e := by
    unfold serve
    split at hpayload
    next htakes => rw [if_pos htakes, Schema.of_toOption hpayload]
    next htakes =>
      cases hpayload
      rw [if_neg htakes]
  unfold respond
  rw [hlookup]
  dsimp only
  rw [if_neg (method_ne_head hlookup), hserve, hcarry]

/-- A store with one contact. -/
def oneContact : Service :=
  { store := Store.run {} [⟨.fair 1, .createContact { name := some ['B', 'o', 'b'] }⟩] }

/-- The request for another name of the contact. -/
def renameBob : Request where
  method := .put
  path := Text.ofString "/api/v1/contacts/c0000000-0000-4000-8000-000000000001"
  contentType := some (Text.ofString "application/json")
  body := (Text.ofString "\x7b\"name\":\"Ann\"\x7d").map fun c => c.val.toUInt8

/-- Snapshots can be written, but the contact cannot. -/
def readOnly : Conditions :=
  { Conditions.fair 2 with
    refusal := fun _ w => if w = .updateContact (.numbered 0xc0 1) then some [] else none }

theorem atomic_renameBob :
    (asked? oneContact renameBob).isSome ∧
      (respond readOnly oneContact renameBob).1.status = 500 ∧
      (respond readOnly oneContact renameBob).2.store.tables = oneContact.store.tables := by
  refine ⟨by decide +kernel, by decide +kernel, ?_⟩
  exact (respond_atomic readOnly oneContact renameBob).refused (by decide +kernel)

end AddressBook.Http
