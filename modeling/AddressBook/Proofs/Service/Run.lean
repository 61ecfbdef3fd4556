import AddressBook.Proofs.Service.Operations
import AddressBook.Proofs.Store.Outcomes

/-! Runs of the service: operations one after another, each under conditions of its own. -/
namespace AddressBook

open AddressBook.Action

/-- An operation and the conditions that it meets. -/
structure Step where
  env : Conditions
  operation : Operation

namespace Store

/-- The store after a step, whether it succeeds or not. -/
def next (s : Store) (x : Step) : Store := after (x.operation.perform x.env) s

/-- The store after some steps. -/
def run (s : Store) (steps : List Step) : Store := steps.foldl next s

/-- What a step answers. -/
def answer (s : Store) (x : Step) : Except Failure Answer :=
  match x.operation.perform x.env s with
  | .ok a _ => .ok a
  | .error e _ => .error e

/-- What the steps of a run answer. -/
def answers (s : Store) : List Step → List (Except Failure Answer)
  | [] => []
  | x :: rest => s.answer x :: (s.next x).answers rest

end Store

theorem length_answers (s : Store) (steps : List Step) :
    (s.answers steps).length = steps.length := by
  induction steps generalizing s with
  | nil => rfl
  | cons x rest ih => rw [Store.answers, List.length_cons, List.length_cons, ih]

theorem answers_append (s : Store) (steps more : List Step) :
    s.answers (steps ++ more) = s.answers steps ++ (s.run steps).answers more := by
  induction steps generalizing s with
  | nil => rfl
  | cons x rest ih =>
    rw [List.cons_append, Store.answers, Store.answers, List.cons_append, ih]
    rfl

/-- How a step ends: in an answer and tables as they are asked for, or in a failure for a given
reason or by a refused write, and then nothing is written. -/
def Ends (s : Store) (x : Step) (F : Failure → Prop) (Q : Answer → Tables → Prop) : Prop :=
  match x.operation.perform x.env s with
  | .ok a s' => Q a s'.tables
  | .error e s' => (F e ∨ x.env.Refuses e) ∧ s'.tables = s.tables

/-- A contact is created, and its name changes. -/
def renamedOnce : List Step :=
  [⟨.fair 1, .createContact { name := some ['a'] }⟩,
    ⟨.fair 2, .updateContact (.numbered 0xc0 1) [(.name, some ['b'])]⟩]

variable {s : Store} {steps : List Step}

theorem run_append (s : Store) (steps more : List Step) :
    s.run (steps ++ more) = (s.run steps).run more := List.foldl_append ..

theorem next_of_ok {env : Conditions} {op : Operation} {a : Answer} {s' : Store}
    (h : op.perform env s = .ok a s') : s.next ⟨env, op⟩ = s' := by
  unfold Store.next after
  rw [h]

/-- What an operation writes is kept, or taken back if the commit behind it fails. -/
theorem tables_next {env : Conditions} {op : Operation} {a : Answer} {s' : Store}
    (h : op.run env s = .ok a s') :
    (s.next ⟨env, op⟩).tables = s'.tables ∨ (s.next ⟨env, op⟩).tables = s.tables := by
  unfold Store.next after Operation.perform
  cases hp : transaction env (op.run env) s with
  | ok b t =>
    obtain ⟨t₁, hrun, -, rfl⟩ := transaction_eq_ok.1 hp
    rw [h] at hrun
    cases hrun
    exact .inl rfl
  | error e t =>
    obtain ⟨t₁, -, rfl⟩ := savepoint_error hp
    exact .inr rfl

/-- A step changes the tables only by an operation that succeeds. -/
theorem next_tables (s : Store) (x : Step) : (s.next x).tables = s.tables ∨
    ∃ a s₁, x.operation.run x.env s = .ok a s₁ ∧ s.next x = { s₁ with tried := s₁.tried + 1 } := by
  unfold Store.next after Operation.perform
  cases h : transaction x.env (x.operation.run x.env) s with
  | ok a s' =>
    obtain ⟨s₁, hrun, -, rfl⟩ := transaction_eq_ok.1 h
    exact Or.inr ⟨a, s₁, hrun, rfl⟩
  | error e s' =>
    obtain ⟨s₁, -, rfl⟩ := savepoint_error h
    exact Or.inl rfl

theorem Yields.ends {x : Step} {F : Failure → Prop} {Q : Answer → Tables → Prop}
    (h : Yields x.env (x.operation.run x.env) s F fun a s' => Q a s'.tables) : Ends s x F Q := by
  have hp : Yields x.env (x.operation.perform x.env) s F fun a s' => Q a s'.tables := by
    apply h.transaction.mono
    rintro a _ ⟨s₁, hq, rfl⟩
    exact hq
  unfold Ends
  cases ha : x.operation.perform x.env s with
  | ok a s' => exact hp.ok ha
  | error e s' =>
    obtain ⟨s₁, -, rfl⟩ := savepoint_error ha
    exact ⟨hp.error ha, rfl⟩

theorem Yields.answer {α : Type} {act : Action α} {F : Failure → Prop} {Q : α → Store → Prop}
    {R : Answer → Store → Prop} {env : Conditions}
    {answer : α → Answer} (h : Yields env act s F Q)
    (hq : ∀ x s', Q x s' → R (answer x) s') :
    Yields env (do return answer (← act)) s F R :=
  h.bind fun x s' hx => yields_pure (hq x s' hx)

theorem Ends.mono {x : Step} {F : Failure → Prop} {Q Q' : Answer → Tables → Prop}
    (h : Ends s x F Q) (hq : ∀ a t, Q a t → Q' a t) : Ends s x F Q' := by
  unfold Ends at h ⊢
  cases hp : x.operation.perform x.env s with
  | ok a s' =>
    rw [hp] at h
    exact hq a _ h
  | error e s' =>
    rw [hp] at h
    exact h

theorem Ends.cases {x : Step} {F : Failure → Prop} {Q : Answer → Tables → Prop}
    (h : Ends s x F Q) : (∃ a, s.answer x = .ok a ∧ Q a (s.next x).tables) ∨
      ∃ e, s.answer x = .error e ∧ (F e ∨ x.env.Refuses e) ∧ (s.next x).tables = s.tables := by
  unfold Ends at h
  unfold Store.answer Store.next after
  cases hp : x.operation.perform x.env s with
  | ok a s' =>
    rw [hp] at h
    exact .inl ⟨a, rfl, h⟩
  | error e s' =>
    rw [hp] at h
    exact .inr ⟨e, rfl, h⟩

/-- A step moves the store; if it fails, contacts and their history stay as they are. -/
theorem evolves_next (h : Numbered s) (x : Step) : Evolves x.env s (s.next x) := by
  have hl : Leads x.env (x.operation.run x.env) s fun _ _ => True := leads_run x.operation h
  have hr := hl.transaction
  unfold Store.next after Operation.perform
  cases hp : transaction x.env (x.operation.run x.env) s with
  | ok a s' => rwa [hp] at hr
  | error e s' =>
    rw [hp] at hr
    exact .single (.apart hr)

theorem numbered_run (h : Numbered s) (steps : List Step) : Numbered (s.run steps) := by
  induction steps generalizing s with
  | nil => exact h
  | cons x rest ih => exact ih (numbered_evolves (evolves_next h x) h)

section

variable {P : Conditions → Prop} {R : Store → Store → Prop} {env : Conditions} {s' : Store}

/-- A relation that composes and that no move breaks holds between any two stores of which one
comes from the other. -/
theorem relation_evolves (refl : ∀ s, R s s) (trans : ∀ a b c, R a b → R b c → R a c)
    (hmove : ∀ env a b, P env → Numbered a → Move env a b → R a b)
    (henv : P env) (h : Numbered s) (he : Evolves env s s') : R s s' := by
  induction he with
  | refl => exact refl s
  | tail he hm ih => exact trans _ _ _ ih (hmove env _ _ henv (numbered_evolves he h) hm)

theorem relation_run (refl : ∀ s, R s s) (trans : ∀ a b c, R a b → R b c → R a c)
    (hmove : ∀ env a b, P env → Numbered a → Move env a b → R a b)
    (h : Numbered s) (hx : ∀ x ∈ steps, P x.env) : R s (s.run steps) := by
  induction steps generalizing s with
  | nil => exact refl s
  | cons x rest ih =>
    have he := evolves_next h x
    have hn := relation_evolves refl trans hmove (hx x (List.mem_cons_self ..)) h he
    have hrest := ih (numbered_evolves he h) fun y hy => hx y (List.mem_cons_of_mem _ hy)
    exact trans _ _ _ hn hrest

end

end AddressBook
