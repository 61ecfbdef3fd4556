import AddressBook.Proofs.Search.Agreement
import AddressBook.Proofs.Search.Nesting

/-!
The shapes of the conditions that search texts ask for. There are few of them, whatever the text:
what is collected clause by clause never loses a part, and nothing is joined to nothing. This is
why every condition of a search text can be put as a clause, if only there is room to follow it.
-/
namespace AddressBook.Search

/-- Conditions on terms: that some searchable field contains one, that none does, and several such
conditions at once. -/
inductive Assembled : Predicate → Prop where
  | mentions (term : Text) : Assembled (.mentions term)
  | not (term : Text) : Assembled (.not (.mentions term))
  | all {parts : List Predicate} (several : 2 ≤ parts.length)
    (assembled : ∀ p ∈ parts, Assembled p) : Assembled (.all parts)

/-- The name behind the word that asks for missing fields. -/
def nameBehind (query : Text) : Text :=
  Text.trim ((Text.lower (Text.trim query)).drop emptyWord.length)

/-- The shapes of conditions, and which search texts ask for them. -/
inductive Shaped (query : Text) : Predicate → Prop where
  | missing (f : Field) (asks : AsksMissing query) (named : nameBehind query = f.label) :
    Shaped query (.isNull f.label)
  | incomplete (asks : AsksMissing query) (unnamed : ∀ f : Field, nameBehind query ≠ f.label) :
    Shaped query (.any (Field.all.map fun f => .isNull f.label))
  | everything (asks : ¬ AsksMissing query) : Shaped query .everything
  | assembled {p : Predicate} (asks : ¬ AsksMissing query) (parts : Assembled p) : Shaped query p

variable {query : Text} {p : Predicate} {entries : List Predicate}

/-! ### Collected conditions -/

theorem assembled_pair {q : Predicate} (hp : Assembled p) (hq : Assembled q) :
    Assembled (.all [p, q]) := by
  refine .all (Nat.le_refl 2) ?_
  rw [List.forall_mem_cons, List.forall_mem_singleton]
  exact ⟨hp, hq⟩

/-- One more clause keeps all conditions assembled: it joins the last one to a term, puts one of
its own before them, or is left out. -/
theorem assembled_collect (h : ∀ p ∈ entries, Assembled p) (clause : QueryClause) :
    ∀ p ∈ collect entries clause, Assembled p := by
  unfold collect
  split
  case h_1 => exact h
  case h_2 last earlier =>
    obtain ⟨hlast, hearlier⟩ := List.forall_mem_cons.1 h
    exact List.forall_mem_cons.2 ⟨assembled_pair hlast (.mentions _), hearlier⟩
  case h_3 => exact List.forall_mem_cons.2 ⟨.not _, h⟩
  case h_4 => exact List.forall_mem_cons.2 ⟨.mentions _, h⟩

theorem assembled_foldl (cs : List QueryClause) (h : ∀ p ∈ entries, Assembled p) :
    ∀ p ∈ cs.foldl collect entries, Assembled p := by
  induction cs generalizing entries with
  | nil => exact h
  | cons clause rest ih => exact ih (assembled_collect h clause)

theorem assembled_conjoin (h : ∀ p ∈ entries, Assembled p) :
    conjoin entries = .everything ∨ Assembled (conjoin entries) := by
  match entries, h with
  | [], _ => exact .inl rfl
  | [p], h => exact .inr (h p (List.mem_singleton_self p))
  | last :: other :: earlier, h =>
    refine .inr (.all ?_ ?_)
    · simp
    · exact fun p hp => h p (List.mem_reverse.1 hp)

theorem ofClauses_shaped (hasks : ¬ AsksMissing query) (cs : List QueryClause) :
    Shaped query (ofClauses cs) := by
  have hnone : ∀ p ∈ ([] : List Predicate), Assembled p := fun _ hp => nomatch hp
  obtain heverything | hassembled := assembled_conjoin (assembled_foldl cs hnone)
  · rw [ofClauses, heverything]
    exact .everything hasks
  · exact .assembled hasks hassembled

/-! ### Search texts -/

theorem missing_shaped (hasks : AsksMissing query) :
    Shaped query (missing (nameBehind query)) := by
  have hlabels : searchable.map Predicate.isNull = Field.all.map fun f => .isNull f.label :=
    List.map_map ..
  unfold missing
  split
  case isTrue hname =>
    obtain ⟨f, hf⟩ := Clause.mem_searchable hname
    rw [hf]
    exact .missing f hasks hf
  case isFalse hname =>
    rw [hlabels]
    refine .incomplete hasks fun f hf => hname ?_
    rw [hf]
    cases f <;> decide

theorem shaped_compile (query : Text) : Shaped query (compile query) := by
  by_cases hasks : AsksMissing query
  · rw [compile_missing hasks]
    exact missing_shaped hasks
  by_cases hop : HasOperator query
  · rw [compile_operator hasks hop]
    exact ofClauses_shaped hasks _
  by_cases hnothing : tokens query = []
  · rw [compile_nothing hasks hnothing]
    exact .everything hasks
  · rw [compile_plain hasks hop hnothing]
    exact .assembled hasks (.mentions _)

/-! ### Their clauses -/

theorem allSensible_iff {ps : List Predicate} :
    Predicate.allSensible ps = true ↔ ∀ p ∈ ps, p.isSensible = true := by
  induction ps with
  | nil => simp [Predicate.allSensible]
  | cons p rest ih => simp [Predicate.allSensible, ih]

theorem Assembled.sensible (h : Assembled p) : p.isSensible = true := by
  induction h with
  | mentions term => rfl
  | not term => rfl
  | @all parts several assembled ih =>
    have hparts : parts ≠ [] := by
      rintro rfl
      exact absurd several (by decide)
    rw [Predicate.isSensible, Bool.and_eq_true]
    exact ⟨by simpa using hparts, allSensible_iff.2 ih⟩

theorem Shaped.sensible (h : Shaped query p) : p.isSensible = true := by
  cases h with
  | missing f asks named => cases f <;> rfl
  | incomplete asks unnamed => rfl
  | everything asks => rfl
  | assembled asks parts => exact parts.sensible

/-- Whatever is searched for, the condition is of one of these shapes. Where there is room for the
calls that it takes, it becomes a clause, which can be read; where there is not, this is all that is
wrong. Each conjunction takes two more calls. -/
theorem compile_shaped (query : Text) (room : Nat) :
    Shaped query (compile query) ∧
    ((compile query).depth translationCalls ≤ room →
      ∃ clause, Clause.ofPredicate room (compile query) = .ok clause ∧
        Clause.allReadable true [clause] = true) ∧
    (room < (compile query).depth translationCalls →
      Clause.ofPredicate room (compile query) = .error .tooDeep) ∧
    (compile query).depth translationCalls ≤
      2 * (conjunctions (clauses (tokens query)) + 1) + 2 := by
  have hshaped := shaped_compile query
  refine ⟨hshaped, fun hroom => ?_, Clause.ofPredicate_of_lt_depth hshaped.sensible,
    depth_compile translationCalls query⟩
  obtain ⟨clause, hclause, hsolid, -⟩ := Clause.value_ofPredicate hshaped.sensible hroom
  exact ⟨clause, hclause, Clause.AllSolid.readable ⟨hsolid, trivial⟩⟩

/-- No room is enough for all search texts. With five hundred conjunctions, a condition takes more
calls than can be open. -/
theorem compile_untranslated : ¬ ∀ query, ∃ clause,
    Clause.ofPredicate callLimit (compile query) = .ok clause := by
  intro h
  obtain ⟨clause, hclause⟩ := h (written (chain 500))
  have hdeep : callLimit < (compile (written (chain 500))).depth translationCalls := by
    rw [compile_chain (by decide), translationCalls, depth_nested]
    decide
  rw [Clause.ofPredicate_of_lt_depth (shaped_compile _).sensible hdeep] at hclause
  cases hclause

end AddressBook.Search
