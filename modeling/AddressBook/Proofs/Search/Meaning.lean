import AddressBook.Proofs.Search.Nesting
import AddressBook.Proofs.Text.Occurrence

/-!
What an operator query asks for. Its tokens are paired into clauses, conjunctions that narrow
nothing are left out, and a record meets the query exactly if every clause that is left holds for
it, however the conditions are nested. The nesting shows only where there is no room to follow it.
-/
namespace AddressBook.Search

/-- Tokens paired into clauses from left to right: an operator takes the next token as its term,
whatever it is, any other token is a clause of its own, and an operator at the end is dropped. -/
inductive Paired : List Text → List QueryClause → Prop where
  | nil : Paired [] []
  | trailing {token : Text} {op : Operator} (h : op.Spells token) : Paired [token] []
  | operator {token term : Text} {rest : List Text} {cs : List QueryClause} {op : Operator}
    (h : op.Spells token) (hrest : Paired rest cs) :
    Paired (token :: term :: rest) (⟨some op, unquoted term⟩ :: cs)
  | bare {token : Text} {rest : List Text} {cs : List QueryClause}
    (h : ∀ op : Operator, ¬ op.Spells token) (hrest : Paired rest cs) :
    Paired (token :: rest) (⟨none, unquoted token⟩ :: cs)

/-- The clauses left so far and one more: a conjunction is left out unless some clause before it
is left. -/
def keep (kept : List QueryClause) (clause : QueryClause) : List QueryClause :=
  if clause.operator = some .and ∧ kept = [] then kept else kept ++ [clause]

/-- The clauses that are left, from left to right. -/
def retained (cs : List QueryClause) : List QueryClause := cs.foldl keep []

/-- Whether some searchable field of a record contains a term, letter case aside. -/
def Mentions (record : Record) (term : Text) : Prop :=
  ∃ field : Field, ∃ value, record field.label = some value ∧ Text.lower term <:+: Text.lower value

/-- Whether a clause holds for a record: one with NOT forbids its term, any other requires it. -/
def QueryClause.HoldsFor (record : Record) (clause : QueryClause) : Prop :=
  match clause.operator with
  | some .not => ¬ Mentions record clause.term
  | _ => Mentions record clause.term

variable {token term query : Text} {rest ts : List Text} {cs kept : List QueryClause}
  {clause : QueryClause} {entries : List Predicate} {record : Record} {op : Operator}

/-! ### Pairing -/

theorem paired_clauses (ts : List Text) : Paired ts (clauses ts) := by
  -- An operator takes two tokens at once, so the induction is on the length.
  induction hn : ts.length using Nat.strong_induction_on generalizing ts with
  | _ n ih =>
    cases ts with
    | nil => exact .nil
    | cons token rest =>
      by_cases h : ∃ op : Operator, op.Spells token
      · obtain ⟨op, h⟩ := h
        cases rest with
        | nil =>
          rw [clauses_trailing h]
          exact .trailing h
        | cons term rest =>
          rw [clauses_operator h]
          have hlt : rest.length < n := by
            rw [← hn, List.length_cons, List.length_cons]
            omega
          exact .operator h (ih _ hlt rest rfl)
      · have hnone : ∀ op : Operator, ¬ op.Spells token := fun op hop => h ⟨op, hop⟩
        rw [clauses_bare hnone]
        exact .bare hnone (ih _ (by simp [← hn]) rest rfl)

theorem Paired.eq_clauses (h : Paired ts cs) : cs = clauses ts := by
  induction h with
  | nil => rfl
  | trailing h => rw [clauses_trailing h]
  | operator h _ ih => rw [clauses_operator h, ih]
  | bare h _ ih => rw [clauses_bare h, ih]

/-- There is one way to pair tokens. -/
theorem paired_iff : Paired ts cs ↔ cs = clauses ts :=
  ⟨Paired.eq_clauses, fun h => h ▸ paired_clauses ts⟩

/-! ### Conditions and clauses -/

theorem holds_iff {needle : Text} {value : Option Text} :
    holds needle value = true ↔ ∃ text, value = some text ∧ needle <:+: Text.lower text := by
  cases value with
  | none => simp [holds]
  | some text => simp [holds, Text.occursIn_iff]

theorem holdsFor_mentions :
    (Predicate.mentions term).holdsFor record = true ↔ Mentions record term := by
  have hany : (Predicate.mentions term).holdsFor record =
      searchable.any fun label => holds (Text.lower term) (record label) := rfl
  have hall (field : Field) : field ∈ Field.all := by cases field <;> decide
  rw [hany, searchable, List.any_map, List.any_eq_true]
  constructor
  · rintro ⟨field, -, h⟩
    exact ⟨field, holds_iff.1 h⟩
  · rintro ⟨field, h⟩
    exact ⟨field, hall field, holds_iff.2 h⟩

theorem allHoldFor_iff {ps : List Predicate} :
    Predicate.allHoldFor record ps = true ↔ ∀ p ∈ ps, p.holdsFor record = true := by
  induction ps with
  | nil => simp [Predicate.allHoldFor]
  | cons p rest ih => simp [Predicate.allHoldFor, ih]

theorem holdsFor_conjoin :
    (conjoin entries).holdsFor record = true ↔ ∀ p ∈ entries, p.holdsFor record = true := by
  unfold conjoin
  split
  case h_1 => simp [Predicate.holdsFor]
  case h_2 p => simp
  case h_3 => simp [Predicate.holdsFor, allHoldFor_iff]

/-- Conditions and clauses collected side by side: there are none of the one if there are none of
the other, and a record meets them all if all clauses hold for it. -/
structure Matched (entries : List Predicate) (kept : List QueryClause) : Prop where
  empty : entries = [] ↔ kept = []
  meets : ∀ record, (∀ p ∈ entries, p.holdsFor record = true) ↔
    ∀ clause ∈ kept, clause.HoldsFor record

theorem forall_mem_concat {α : Type} {l : List α} {a : α} {P : α → Prop} :
    (∀ x ∈ l ++ [a], P x) ↔ P a ∧ ∀ x ∈ l, P x := by
  rw [List.forall_mem_append, List.forall_mem_singleton, and_comm]

/-- A clause that is no conjunction adds a condition of its own. -/
theorem Matched.push (h : Matched entries kept) {p : Predicate}
    (hp : ∀ record, p.holdsFor record = true ↔ clause.HoldsFor record) :
    Matched (p :: entries) (kept ++ [clause]) := by
  refine ⟨by simp, fun record => ?_⟩
  rw [List.forall_mem_cons, forall_mem_concat, hp, h.meets]

/-- A conjunction narrows the last condition. -/
theorem Matched.narrow {p : Predicate} (h : Matched (p :: entries) kept) (term : Text) :
    Matched (.all [p, .mentions term] :: entries) (kept ++ [⟨some .and, term⟩]) := by
  refine ⟨by simp, fun record => ?_⟩
  have hboth : (Predicate.all [p, .mentions term]).holdsFor record = true ↔
      p.holdsFor record = true ∧ Mentions record term := by
    simp [Predicate.holdsFor, Predicate.allHoldFor, holdsFor_mentions]
  have hmeets := h.meets record
  rw [List.forall_mem_cons] at hmeets
  rw [List.forall_mem_cons, forall_mem_concat, hboth, ← hmeets]
  constructor
  · rintro ⟨⟨hp, hterm⟩, hrest⟩
    exact ⟨hterm, hp, hrest⟩
  · rintro ⟨hterm, hp, hrest⟩
    exact ⟨⟨hp, hterm⟩, hrest⟩

/-- One more clause is collected on both sides. -/
theorem Matched.step (h : Matched entries kept) (clause : QueryClause) :
    Matched (collect entries clause) (keep kept clause) := by
  obtain ⟨operator, term⟩ := clause
  have hpush (hne : operator ≠ some .and) :
      keep kept ⟨operator, term⟩ = kept ++ [⟨operator, term⟩] :=
    if_neg fun hand => hne hand.1
  cases operator with
  | none =>
    rw [hpush (by simp)]
    exact h.push fun record => holdsFor_mentions
  | some op =>
    cases op with
    | and =>
      cases entries with
      | nil =>
        have hkept := h.empty.1 rfl
        subst hkept
        exact h
      | cons p entries =>
        have hkept : kept ≠ [] := fun hnil => by simpa using h.empty.2 hnil
        have hkeep : keep kept ⟨some .and, term⟩ = kept ++ [⟨some .and, term⟩] :=
          if_neg fun hand => hkept hand.2
        rw [hkeep]
        exact h.narrow term
    | or =>
      rw [hpush (by simp)]
      exact h.push fun record => holdsFor_mentions
    | not =>
      rw [hpush (by simp)]
      refine h.push fun record => ?_
      simp [Predicate.holdsFor, QueryClause.HoldsFor, ← holdsFor_mentions]

/-- All clauses of a query are collected on both sides. -/
theorem Matched.run (h : Matched entries kept) (cs : List QueryClause) :
    Matched (cs.foldl collect entries) (cs.foldl keep kept) := by
  induction cs generalizing entries kept with
  | nil => exact h
  | cons clause rest ih => exact ih (h.step clause)

theorem matched_clauses (cs : List QueryClause) : Matched (cs.foldl collect []) (retained cs) := by
  have hnone : Matched [] [] := ⟨by simp, by simp⟩
  exact hnone.run cs

theorem holdsFor_ofClauses : (ofClauses cs).holdsFor record = true ↔
    ∀ clause ∈ retained cs, clause.HoldsFor record :=
  holdsFor_conjoin.trans ((matched_clauses cs).meets record)

/-- A record that is tried meets an operator query exactly if each of its clauses holds for it, but
for the conjunctions with nothing before them. The trial can fail only where there is no room for the
calls that it takes, three more for each conjunction. -/
theorem compile_meaning (hoperator : HasOperator query) (hmissing : ¬ AsksMissing query) :
    ∃ cs, (∀ other, Paired (tokens query) other ↔ other = cs) ∧
      (compile query).depth trialCalls ≤ 3 * (conjunctions cs + 1) + 2 ∧
      ∀ record room,
        (∃ b, (compile query).tryOn record room = .ok b ∧
          (b = true ↔ ∀ clause ∈ retained cs, clause.HoldsFor record)) ∨
        (compile query).tryOn record room = .error .tooDeep ∧
          room < (compile query).depth trialCalls := by
  refine ⟨clauses (tokens query), fun other => paired_iff, depth_compile trialCalls query,
    fun record room => ?_⟩
  refine (Predicate.tried_tryOn (compile query) room).imp_left fun htold => ⟨_, htold, ?_⟩
  rw [compile_operator hmissing hoperator]
  exact holdsFor_ofClauses

/-- A query with a leading conjunction, operators in either case, an operator and a quoted operator
as terms, and an operator at its end. -/
def tangled : Text := Text.ofString "AND x john or \"Jane Doe\" And OR not \"not\" AND"

theorem compile_meaning_tangled : HasOperator tangled ∧ ¬ AsksMissing tangled ∧
    ∀ record, ∃ b, (compile tangled).tryOn record usualRoom = .ok b ∧
      (b = true ↔ Mentions record (Text.ofString "john") ∧ Mentions record (Text.ofString "Jane Doe") ∧
        Mentions record (Text.ofString "OR") ∧ ¬ Mentions record (Text.ofString "not")) := by
  have hoperator : HasOperator tangled := by decide
  have hmissing : ¬ AsksMissing tangled := by decide
  have hroom : (compile tangled).depth trialCalls ≤ usualRoom := by decide
  refine ⟨hoperator, hmissing, fun record => ?_⟩
  obtain ⟨cs, hpaired, -, hmeaning⟩ := compile_meaning hoperator hmissing
  have hcs : clauses (tokens tangled) = cs := (hpaired _).1 (paired_clauses _)
  have hretained : retained cs = [⟨none, Text.ofString "john"⟩,
      ⟨some .or, Text.ofString "Jane Doe"⟩, ⟨some .and, Text.ofString "OR"⟩,
      ⟨some .not, Text.ofString "not"⟩] := by
    rw [← hcs]
    decide
  obtain ⟨b, htold, hholds⟩ | ⟨-, hdeep⟩ := hmeaning record usualRoom
  · refine ⟨b, htold, ?_⟩
    rw [hholds, hretained]
    simp [QueryClause.HoldsFor]
  · exact absurd hroom (Nat.not_le.2 hdeep)

theorem retained_subset : ∀ clause ∈ cs.foldl keep kept, clause ∈ kept ∨ clause ∈ cs := by
  induction cs generalizing kept with
  | nil => exact fun clause h => .inl h
  | cons first rest ih =>
    intro clause h
    rcases ih clause h with h | h
    · unfold keep at h
      split at h
      · exact .inl h
      · rcases List.mem_append.1 h with h | h
        · exact .inl h
        · exact .inr (List.mem_singleton.1 h ▸ List.mem_cons_self)
    · exact .inr (List.mem_cons_of_mem first h)

/-- With five hundred conjunctions, the trial takes more calls than can be open, even if every
clause holds. -/
theorem compile_untried : ¬ ∀ query, HasOperator query → ¬ AsksMissing query →
    ∀ record, (∀ clause ∈ retained (clauses (tokens query)), clause.HoldsFor record) →
      (compile query).tryOn record callLimit = .ok true := by
  intro h
  have hall : ∀ clause ∈ retained (clauses (tokens (written (chain 500)))),
      clause.HoldsFor fun _ => some ['a'] := by
    rw [clauses_chain]
    intro clause hclause
    have hmentions : Mentions (fun _ => some ['a']) ['a'] := ⟨.name, ['a'], rfl, List.infix_rfl⟩
    rcases List.mem_cons.1 ((retained_subset clause hclause).resolve_left List.not_mem_nil) with
      rfl | hclause
    · exact hmentions
    · rw [List.eq_of_mem_replicate hclause]
      exact hmentions
  have htold := h _ (hasOperator_chain (by decide)) not_asksMissing_written _ hall
  have hdeep : callLimit < (nested 500).depth trialCalls := by
    rw [trialCalls, depth_nested]
    decide
  rw [compile_chain (by decide), tryOn_nested hdeep] at htold
  cases htold

end AddressBook.Search
