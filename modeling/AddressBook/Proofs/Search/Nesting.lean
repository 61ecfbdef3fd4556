import AddressBook.Proofs.Search.Depth
import AddressBook.Proofs.Search.Quoting

/-!
How deep the conditions of search texts are nested. Every conjunction puts the condition before it
one list deeper, and nothing else does, so that a text with few conjunctions asks for a condition
that is easily followed, and there are texts for which no room is large enough.
-/
namespace AddressBook.Search

/-- The number of clauses that are joined to something by a conjunction, or would be. -/
def conjunctions (cs : List QueryClause) : Nat := cs.countP (·.operator == some .and)

variable {k n room : Nat} {query : Text} {cs : List QueryClause} {clause : QueryClause}
  {entries : List Predicate} {record : Record}

/-! ### Few conjunctions -/

/-- One more clause makes no condition deeper, unless it is a conjunction. -/
theorem depth_collect (h : ∀ p ∈ entries, p.depth k ≤ n + 2) :
    ∀ p ∈ collect entries clause, p.depth k ≤ n + k * conjunctions [clause] + 2 := by
  have hkept : ∀ p ∈ entries, p.depth k ≤ n + k * conjunctions [clause] + 2 := fun p hp =>
    Nat.le_trans (h p hp) (by omega)
  unfold collect
  split
  case h_1 => exact hkept
  case h_2 last earlier hand =>
    obtain ⟨hlast, -⟩ := List.forall_mem_cons.1 h
    refine List.forall_mem_cons.2 ⟨?_, (List.forall_mem_cons.1 hkept).2⟩
    have hone : conjunctions [clause] = 1 := by simp [conjunctions, hand]
    have hterm : (Predicate.mentions clause.term).depth k = 1 := rfl
    rw [hone, Predicate.depth, Predicate.depthOfAll, Predicate.depthOfAll, Predicate.depthOfAll,
      hterm]
    omega
  case h_3 =>
    refine List.forall_mem_cons.2 ⟨?_, hkept⟩
    exact Nat.le_add_left 2 _
  case h_4 =>
    refine List.forall_mem_cons.2 ⟨?_, hkept⟩
    exact Nat.le_trans (Nat.le_succ 1) (Nat.le_add_left 2 _)

theorem depth_foldl_collect (h : ∀ p ∈ entries, p.depth k ≤ n + 2) :
    ∀ p ∈ cs.foldl collect entries, p.depth k ≤ n + k * conjunctions cs + 2 := by
  induction cs generalizing entries n with
  | nil => exact h
  | cons clause rest ih =>
    have hsum : conjunctions (clause :: rest) = conjunctions [clause] + conjunctions rest := by
      rw [conjunctions, conjunctions, conjunctions, ← List.countP_append, List.singleton_append]
    rw [hsum, Nat.mul_add, ← Nat.add_assoc]
    exact ih (depth_collect h)

theorem depth_conjoin (h : ∀ p ∈ entries, p.depth k ≤ n) (hn : 1 ≤ n) :
    (conjoin entries).depth k ≤ k + n := by
  unfold conjoin
  split
  case h_1 => exact Nat.le_trans hn (Nat.le_add_left n k)
  case h_2 p => exact Nat.le_trans (h p (List.mem_singleton_self p)) (Nat.le_add_left n k)
  case h_3 =>
    refine Nat.add_le_add_left (Predicate.depthOfAll_le_iff.2 fun p hp => ?_) k
    exact h p (List.mem_reverse.1 hp)

theorem depth_missing (field : Text) : (missing field).depth k ≤ k + 1 := by
  unfold missing
  split
  · exact Nat.le_add_left 1 k
  · exact Nat.le_refl _

/-- The condition of a search text is as deep as its conjunctions make it. -/
theorem depth_compile (k : Nat) (query : Text) :
    (compile query).depth k ≤ k * (conjunctions (clauses (tokens query)) + 1) + 2 := by
  have hlow : k + 1 ≤ k * (conjunctions (clauses (tokens query)) + 1) + 2 := by
    rw [Nat.mul_succ]
    omega
  by_cases hmissing : AsksMissing query
  · rw [compile_missing hmissing]
    exact Nat.le_trans (depth_missing _) hlow
  by_cases hop : HasOperator query
  · rw [compile_operator hmissing hop]
    have hentries : ∀ p ∈ (clauses (tokens query)).foldl collect [],
        p.depth k ≤ 0 + k * conjunctions (clauses (tokens query)) + 2 :=
      depth_foldl_collect fun _ hp => nomatch hp
    have hjoined := depth_conjoin hentries (by omega)
    rw [ofClauses, Nat.mul_succ]
    omega
  have hleaf : 1 ≤ k * (conjunctions (clauses (tokens query)) + 1) + 2 := by omega
  by_cases hnothing : tokens query = []
  · rw [compile_nothing hmissing hnothing]
    exact hleaf
  · rw [compile_plain hmissing hop hnothing]
    exact hleaf

/-! ### Many conjunctions -/

/-- A clause and conjunctions behind it, all with the same term. -/
def chain (n : Nat) : List QueryClause := ⟨none, ['a']⟩ :: List.replicate n ⟨some .and, ['a']⟩

/-- The condition that a field contains a term, joined to itself so many times. -/
def nested : Nat → Predicate
  | 0 => .mentions ['a']
  | n + 1 => .all [nested n, .mentions ['a']]

theorem chain_unquoted : ∀ clause ∈ chain n, '"' ∉ clause.term := by
  intro clause hclause
  obtain rfl | hclause := List.mem_cons.1 hclause
  · decide
  · rw [List.eq_of_mem_replicate hclause]
    decide

theorem collect_chain (m : Nat) :
    (List.replicate n ⟨some .and, ['a']⟩).foldl collect [nested m] = [nested (m + n)] := by
  induction n generalizing m with
  | zero => rfl
  | succ n ih =>
    have hstep : collect [nested m] ⟨some .and, ['a']⟩ = [nested (m + 1)] := rfl
    rw [List.replicate_succ, List.foldl_cons, hstep, ih, Nat.add_right_comm, Nat.add_assoc]

theorem hasOperator_chain (hn : n ≠ 0) : HasOperator (written (chain n)) :=
  hasOperator_written chain_unquoted
    ⟨⟨some .and, ['a']⟩, by simp [chain, hn], by decide⟩

theorem clauses_chain : clauses (tokens (written (chain n))) = chain n := by
  rw [tokens_written chain_unquoted, clauses_words chain_unquoted]

theorem compile_chain (hn : n ≠ 0) : compile (written (chain n)) = nested n := by
  rw [compile_operator not_asksMissing_written (hasOperator_chain hn), clauses_chain, ofClauses,
    chain, List.foldl_cons]
  have hfirst : collect [] ⟨none, ['a']⟩ = [nested 0] := rfl
  rw [hfirst, collect_chain, Nat.zero_add]
  rfl

theorem depth_nested (n : Nat) : (nested n).depth (k + 1) = (k + 1) * n + 1 := by
  induction n with
  | zero => rfl
  | succ n ih =>
    have hterm : (Predicate.mentions ['a']).depth (k + 1) = 1 := rfl
    rw [nested, Predicate.depth, Predicate.depthOfAll, Predicate.depthOfAll, Predicate.depthOfAll,
      ih, hterm, Nat.mul_succ]
    omega

/-- The trial goes into the first parts first, so that it meets the deepest one. -/
theorem tryOn_nested (h : room < (nested n).depth trialCalls) :
    (nested n).tryOn record room = .error .tooDeep := by
  rw [trialCalls, depth_nested] at h
  induction n generalizing room with
  | zero => exact calling_of_lt (by omega)
  | succ n ih =>
    rw [nested, Predicate.tryOn]
    by_cases hroom : trialCalls ≤ room
    · rw [calling_of_le hroom, Predicate.tryAll, ih]
      rw [trialCalls] at *
      omega
    · exact calling_of_lt (Nat.not_le.1 hroom)

end AddressBook.Search
