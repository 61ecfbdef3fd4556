import AddressBook.Proofs.Search.Folding

/-!
Conditions and clauses without their terms. Constants are absorbed and lists are opened in the same
way whatever the terms are, and the text of a clause is that of the clause without terms: a term
shows in nothing but the value of its parameter.
-/
namespace AddressBook.Search

namespace Predicate

mutual

/-- The condition with an empty term in place of each. -/
def wordless : Predicate → Predicate
  | everything => everything
  | contains _ fields => contains [] fields
  | isNull field => isNull field
  | all children => all (wordlessAll children)
  | any children => any (wordlessAll children)
  | not child => not (wordless child)

/-- Several conditions with an empty term in place of each. -/
def wordlessAll : List Predicate → List Predicate
  | [] => []
  | p :: rest => wordless p :: wordlessAll rest

end

mutual

theorem namesColumns_wordless : ∀ p : Predicate, p.wordless.namesColumns = p.namesColumns
  | everything | contains _ _ | isNull _ => rfl
  | all children | any children => allNameColumns_wordless children
  | not child => namesColumns_wordless child

theorem allNameColumns_wordless : ∀ ps : List Predicate,
    allNameColumns (wordlessAll ps) = allNameColumns ps
  | [] => rfl
  | p :: rest => by
    rw [wordlessAll, allNameColumns, allNameColumns, namesColumns_wordless p,
      allNameColumns_wordless rest]

end

mutual

theorem depth_wordless {k : Nat} : ∀ p : Predicate, p.wordless.depth k = p.depth k
  | everything | contains _ _ | isNull _ => rfl
  | all children | any children => congrArg (k + ·) (depthOfAll_wordless children)
  | not child => congrArg (1 + ·) (depth_wordless child)

theorem depthOfAll_wordless {k : Nat} : ∀ ps : List Predicate,
    depthOfAll k (wordlessAll ps) = depthOfAll k ps
  | [] => rfl
  | p :: rest => by
    rw [wordlessAll, depthOfAll, depthOfAll, depth_wordless p, depthOfAll_wordless rest]

end

end Predicate

theorem Like.escape_lower_nil : Like.escape (Text.lower []) = [] := rfl

namespace Clause

mutual

/-- The clause with an empty term in place of each. -/
def wordless : Clause → Clause
  | const b => const b
  | fixed b => fixed b
  | isNull c negated => isNull c negated
  | like c _ negated => like c [] negated
  | all parts => all (wordlessAll parts)
  | any parts => any (wordlessAll parts)
  | not part => not (wordless part)

/-- Several clauses with an empty term in place of each. -/
def wordlessAll : List Clause → List Clause
  | [] => []
  | c :: rest => wordless c :: wordlessAll rest

end

variable {decisive : Bool} {parts : Clause → List Clause}
  {list : List Clause → Clause}

theorem wordlessAll_eq_map (cs : List Clause) : wordlessAll cs = cs.map wordless := by
  induction cs with
  | nil => rfl
  | cons c rest ih => rw [wordlessAll, ih, List.map_cons]

/-! ### Lists of clauses -/

theorem isConst_wordless (b : Bool) (c : Clause) : isConst b c.wordless = isConst b c := by
  cases c <;> rfl

theorem any_isConst_wordless (b : Bool) (cs : List Clause) :
    (cs.map wordless).any (isConst b) = cs.any (isConst b) := by
  rw [List.any_map]
  congr 1
  exact funext (isConst_wordless b)

theorem filter_isConst_wordless (b : Bool) (cs : List Clause) :
    (cs.map wordless).filter (!isConst b ·) = (cs.filter (!isConst b ·)).map wordless := by
  rw [List.filter_map]
  congr 2
  exact funext fun c => congrArg (! ·) (isConst_wordless b c)

theorem conjuncts_wordless (c : Clause) : conjuncts c.wordless = (conjuncts c).map wordless := by
  cases c with
  | all parts => exact wordlessAll_eq_map parts
  | _ => rfl

theorem disjuncts_wordless (c : Clause) : disjuncts c.wordless = (disjuncts c).map wordless := by
  cases c with
  | any parts => exact wordlessAll_eq_map parts
  | _ => rfl

theorem flatMap_wordless {f : Clause → List Clause}
    (hf : ∀ c, f c.wordless = (f c).map wordless) (cs : List Clause) :
    (cs.map wordless).flatMap f = (cs.flatMap f).map wordless := by
  rw [List.flatMap_map, List.map_flatMap]
  congr 1
  exact funext hf

/-- Constants are absorbed and lists are opened without a look at the terms. -/
theorem combine_wordless (hparts : ∀ c, parts c.wordless = (parts c).map wordless)
    (hlist : ∀ cs, (list cs).wordless = list (cs.map wordless)) (cs : List Clause) :
    combine decisive parts list (cs.map wordless) = (combine decisive parts list cs).wordless := by
  cases cs with
  | nil => exact (hlist []).symm
  | cons c rest =>
    rw [List.map_cons, combine_cons, combine_cons, ← List.map_cons, any_isConst_wordless,
      filter_isConst_wordless]
    split
    case isTrue => rfl
    case isFalse =>
      generalize (c :: rest).filter (!isConst (!decisive) ·) = left
      match left with
      | [] => rfl
      | [d] => rfl
      | d :: d' :: left =>
        have hopen := flatMap_wordless hparts (d :: d' :: left)
        exact (congrArg list hopen).trans (hlist _).symm

theorem conj_wordless (cs : List Clause) : conj (cs.map wordless) = (conj cs).wordless := by
  rw [conj_eq_combine, conj_eq_combine, combine_wordless conjuncts_wordless]
  intro cs
  rw [wordless, wordlessAll_eq_map]

theorem disj_wordless (cs : List Clause) : disj (cs.map wordless) = (disj cs).wordless := by
  rw [disj_eq_combine, disj_eq_combine, combine_wordless disjuncts_wordless]
  intro cs
  rw [wordless, wordlessAll_eq_map]

theorem negate_wordless (c : Clause) : negate c.wordless = (negate c).wordless := by
  cases c <;> rfl

/-! ### Clauses of conditions -/

theorem comparisons_wordless (escaped : Text) (labels : List Text) :
    comparisons [] labels = (comparisons escaped labels).map (·.map wordless) := by
  induction labels with
  | nil => rfl
  | cons label rest ih =>
    rw [comparisons, comparisons]
    cases column label with
    | error e => rfl
    | ok c =>
      rw [ih]
      cases comparisons escaped rest <;> rfl

theorem nullTest_wordless (label : Text) : nullTest label = (nullTest label).map wordless := by
  unfold nullTest
  split <;> rfl

mutual

/-- The clause of a condition without terms is the clause of the condition without its terms. -/
theorem ofPredicate_wordless : ∀ (p : Predicate) (room : Nat),
    ofPredicate room p.wordless = (ofPredicate room p).map wordless
  | .everything, room => by
    rw [Predicate.wordless, ofPredicate, map_calling]
    rfl
  | .contains term [], room => by
    rw [Predicate.wordless, ofPredicate, ofPredicate, map_calling]
    rfl
  | .contains term (label :: rest), room => by
    rw [Predicate.wordless, ofPredicate, ofPredicate, map_calling]
    · congr 1
      funext _
      rw [Like.escape_lower_nil, comparisons_wordless (Like.escape (Text.lower term))]
      cases comparisons (Like.escape (Text.lower term)) (label :: rest) with
      | error e => rfl
      | ok cs => exact congrArg Except.ok (disj_wordless cs)
    all_goals exact List.cons_ne_nil _ _
  | .isNull label, room => by
    rw [Predicate.wordless, ofPredicate, map_calling, ← nullTest_wordless]
  | .all children, room => by
    rw [Predicate.wordless, ofPredicate, ofPredicate, map_calling]
    congr 1
    funext rest
    rw [ofPredicates_wordless children rest]
    cases ofPredicates rest children with
    | error e => rfl
    | ok cs => exact congrArg Except.ok (conj_wordless cs)
  | .any children, room => by
    rw [Predicate.wordless, ofPredicate, ofPredicate, map_calling]
    congr 1
    funext rest
    rw [ofPredicates_wordless children rest]
    cases ofPredicates rest children with
    | error e => rfl
    | ok cs => exact congrArg Except.ok (disj_wordless cs)
  | .not child, room => by
    rw [Predicate.wordless, ofPredicate, ofPredicate, map_calling]
    congr 1
    funext rest
    rw [ofPredicate_wordless child rest]
    cases ofPredicate rest child with
    | error e => rfl
    | ok c => exact congrArg Except.ok (negate_wordless c)

/-- The clauses of several conditions without terms. -/
theorem ofPredicates_wordless : ∀ (ps : List Predicate) (room : Nat),
    ofPredicates room (Predicate.wordlessAll ps) = (ofPredicates room ps).map (·.map wordless)
  | [], _ => rfl
  | p :: rest, room => by
    rw [Predicate.wordlessAll, ofPredicates, ofPredicates, ofPredicate_wordless p,
      ofPredicates_wordless rest]
    cases ofPredicate room p with
    | error e => rfl
    | ok c => cases ofPredicates room rest <;> rfl

end

/-! ### Texts and parameters of clauses -/

theorem isEmptyList_wordless (c : Clause) : c.wordless.isEmptyList = c.isEmptyList := by
  cases c with
  | all parts | any parts => cases parts <;> rfl
  | _ => rfl

theorem isDisjunction_wordless (c : Clause) : c.wordless.isDisjunction = c.isDisjunction := by
  cases c with
  | any parts => cases parts <;> rfl
  | _ => rfl

mutual

/-- A clause without its terms has the same text. -/
theorem text_wordless : ∀ (c : Clause) (n : Numbering), text n c.wordless = text n c
  | const _, _ | fixed _, _ | isNull _ _, _ | like _ _ _, _ => rfl
  | all parts, n => by rw [wordless, text, text, texts_wordless parts]
  | any parts, n => by rw [wordless, text, text, texts_wordless parts]
  | not part, n => by rw [wordless, text, text, text_wordless part, isEmptyList_wordless]

/-- Several clauses without their terms have the same texts. -/
theorem texts_wordless : ∀ (cs : List Clause) {n : Numbering} {wrap : Bool},
    texts n wrap (wordlessAll cs) = texts n wrap cs
  | [], _, _ => rfl
  | c :: rest, n, wrap => by
    rw [wordlessAll, texts, texts, text_wordless c, isDisjunction_wordless]
    simp only [texts_wordless rest]

end

mutual

/-- A clause without its terms compares the same columns. -/
theorem bound_wordless : ∀ c : Clause, (bound c.wordless).map (·.1) = (bound c).map (·.1)
  | const _ | fixed _ | isNull _ _ | like _ _ _ => rfl
  | all parts | any parts => boundAll_wordless parts
  | not part => bound_wordless part

/-- Several clauses without their terms compare the same columns. -/
theorem boundAll_wordless : ∀ cs : List Clause,
    (boundAll (wordlessAll cs)).map (·.1) = (boundAll cs).map (·.1)
  | [] => rfl
  | c :: rest => by
    rw [wordlessAll, boundAll, boundAll, List.map_append, List.map_append, bound_wordless c,
      boundAll_wordless rest]

end

end Clause

/-- Two parameters of the same name that differ in nothing but a search term. -/
structure SameButTerm (a b : String × Text) : Prop where
  name : a.1 = b.1
  value : a.2 = b.2 ∨ ∃ k, a.1 = Clause.termName k

namespace Clause

theorem comparisonParameters_sameButTerm (c : Column) (escaped escaped' : Text) (n : Numbering) :
    List.Forall₂ SameButTerm (comparisonParameters c escaped n)
      (comparisonParameters c escaped' n) := by
  have hsame : ∀ ps : List (String × Text), List.Forall₂ SameButTerm ps ps := fun ps =>
    List.forall₂_same.2 fun _ _ => ⟨rfl, .inl rfl⟩
  exact List.rel_append (hsame _) (.cons ⟨rfl, .inr ⟨n.term, rfl⟩⟩ .nil)

/-- Comparisons of the same columns have the same parameters, the terms aside. -/
theorem parameters_sameButTerm : ∀ {bs bs' : List (Column × Text)} {n : Numbering},
    bs.map (·.1) = bs'.map (·.1) →
      List.Forall₂ SameButTerm (parameters n bs) (parameters n bs')
  | [], [], _, _ => .nil
  | [], _ :: _, _, h | _ :: _, [], _, h => nomatch h
  | (c, escaped) :: rest, (c', escaped') :: rest', n, h => by
    obtain ⟨hc, hrest⟩ := List.cons.inj h
    cases hc
    exact List.rel_append (comparisonParameters_sameButTerm c escaped escaped' n)
      (parameters_sameButTerm hrest)

/-- Clauses that are equal without their terms have the same text, and the same parameters but for
the terms. -/
theorem statement_wordless {c c' : Clause} (h : c.wordless = c'.wordless) :
    c.statement.text = c'.statement.text ∧
      List.Forall₂ SameButTerm c.statement.parameters c'.statement.parameters := by
  constructor
  · exact congrArg Prod.fst ((text_wordless c {}).symm.trans (h ▸ text_wordless c' {}))
  · apply parameters_sameButTerm
    rw [← bound_wordless c, h, bound_wordless c']

end Clause

end AddressBook.Search
