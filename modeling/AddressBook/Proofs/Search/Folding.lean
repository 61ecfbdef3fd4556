import AddressBook.Proofs.Search.Clause
import AddressBook.Proofs.Search.Depth
import AddressBook.Search.Statement
import Mathlib.Data.List.Forall2

/-!
What folding leaves of a condition when it becomes a clause. Constants in a list of conditions are
absorbed, and one that decides the list takes all comparisons in it along. The comparisons of the
clause are those of the pairs of a field and a term that are left, in their order.
-/
namespace AddressBook.Search

/-- What is left of a condition when constants are folded. -/
inductive Residue where
  /-- A constant, which a list around it absorbs. -/
  | const (value : Bool)
  /-- The constant that is left of a list, which no other list absorbs. -/
  | fixed (value : Bool)
  /-- A condition on the record, or a list of no conditions. -/
  | live
deriving DecidableEq

namespace Residue

/-- What is left of a list: one constant decides it, and the opposite one is dropped. -/
def ofList (decisive : Bool) : List Residue → Residue
  | [] => live
  | rs =>
    if rs.contains (const decisive) then fixed decisive
    else match rs.filter (· != const (!decisive)) with
      | [] => fixed (!decisive)
      | [r] => r
      | _ => live

/-- What is left of a negation. -/
def negate : Residue → Residue
  | const b | fixed b => const (!b)
  | live => live

theorem ofList_cons (decisive : Bool) (r : Residue) (rest : List Residue) :
    ofList decisive (r :: rest) =
      if (r :: rest).contains (const decisive) then fixed decisive
      else match (r :: rest).filter (· != const (!decisive)) with
        | [] => fixed (!decisive)
        | [r] => r
        | _ => live := rfl

end Residue

/-- Whether a name is that of a stored column. -/
def isStored (label : Text) : Bool := (Column.ofLabel? label).any (·.constant?.isNone)

namespace Predicate

mutual

/-- What is left of a condition. -/
def residue : Predicate → Residue
  | everything => .const true
  | contains _ fields => if fields.isEmpty then .const false else .live
  | isNull _ => .live
  | all children => .ofList false (residues children)
  | any children => .ofList true (residues children)
  | not child => (residue child).negate

/-- What is left of several conditions, each for itself. -/
def residues : List Predicate → List Residue
  | [] => []
  | p :: rest => residue p :: residues rest

end

mutual

/-- The pairs of a field and a term that are left of a condition, from left to right. -/
def survivors : Predicate → List (Text × Text)
  | everything | isNull _ => []
  | contains term fields => fields.map (·, term)
  | all children =>
    if (residues children).contains (.const false) then [] else survivorsOf children
  | any children =>
    if (residues children).contains (.const true) then [] else survivorsOf children
  | not child => survivors child

/-- The pairs that are left of several conditions. -/
def survivorsOf : List Predicate → List (Text × Text)
  | [] => []
  | p :: rest => survivors p ++ survivorsOf rest

end

mutual

/-- Whether a condition is about stored columns only. -/
def namesColumns : Predicate → Bool
  | everything => true
  | contains _ fields => fields.all isStored
  | isNull field => isStored field
  | all children | any children => allNameColumns children
  | not child => namesColumns child

/-- Whether several conditions are about stored columns only. -/
def allNameColumns : List Predicate → Bool
  | [] => true
  | p :: rest => namesColumns p && allNameColumns rest

end

end Predicate

/-- A pair of a field and a term, and the comparison that it becomes. -/
structure Becomes (pair : Text × Text) (comparison : Column × Text) : Prop where
  column : Column.ofLabel? pair.1 = some comparison.1
  stored : comparison.1.constant? = none
  term : comparison.2 = Like.escape (Text.lower pair.2)

namespace Clause

/-- What is left of a clause. -/
def residue : Clause → Residue
  | const b => .const b
  | fixed b => .fixed b
  | _ => .live

variable {decisive : Bool} {parts : Clause → List Clause} {list : List Clause → Clause}

/-! ### Lists of clauses -/

theorem isConst_eq (b : Bool) (c : Clause) : isConst b c = (c.residue == .const b) := by
  cases c with
  | const b' => cases b <;> cases b' <;> rfl
  | _ => rfl

theorem any_isConst_eq (b : Bool) (cs : List Clause) :
    cs.any (isConst b) = (cs.map residue).contains (.const b) := by
  rw [← List.any_beq', List.any_map]
  congr 1
  exact funext (isConst_eq b)

theorem map_residue_filter (b : Bool) (cs : List Clause) :
    (cs.filter (!isConst b ·)).map residue = (cs.map residue).filter (· != .const b) := by
  rw [List.filter_map]
  congr 2
  exact funext fun c => congrArg (! ·) (isConst_eq b c)

/-- What is left of a list of clauses follows from what is left of each. -/
theorem residue_combine (hlist : ∀ cs, (list cs).residue = .live) (cs : List Clause) :
    (combine decisive parts list cs).residue = .ofList decisive (cs.map residue) := by
  cases cs with
  | nil => exact hlist []
  | cons c rest =>
    rw [combine_cons, List.map_cons, Residue.ofList_cons, ← List.map_cons, ← any_isConst_eq,
      ← map_residue_filter]
    split
    case isTrue => rfl
    case isFalse =>
      generalize (c :: rest).filter (!isConst (!decisive) ·) = left
      match left with
      | [] => rfl
      | [d] => rfl
      | d :: d' :: left => exact hlist _

theorem boundAll_eq_flatMap (cs : List Clause) : boundAll cs = cs.flatMap bound := by
  induction cs with
  | nil => rfl
  | cons c rest ih => rw [boundAll, ih, List.flatMap_cons]

theorem boundAll_filter (b : Bool) (cs : List Clause) :
    boundAll (cs.filter (!isConst b ·)) = boundAll cs := by
  induction cs with
  | nil => rfl
  | cons c rest ih =>
    rw [List.filter_cons]
    split
    case isTrue => rw [boundAll, boundAll, ih]
    case isFalse h =>
      have hc : c = const b := eq_of_isConst (by simpa using h)
      rw [ih, hc, boundAll, bound, List.nil_append]

theorem boundAll_conjuncts (c : Clause) : boundAll (conjuncts c) = bound c := by
  cases c with
  | all cs => rfl
  | _ => exact List.append_nil _

theorem boundAll_disjuncts (c : Clause) : boundAll (disjuncts c) = bound c := by
  cases c with
  | any cs => rfl
  | _ => exact List.append_nil _

/-- A list keeps the comparisons of all its clauses, or of none if a constant decides it. -/
theorem bound_combine (hparts : ∀ c, boundAll (parts c) = bound c)
    (hlist : ∀ cs, bound (list cs) = boundAll cs) (cs : List Clause) :
    bound (combine decisive parts list cs) =
      if cs.any (isConst decisive) then [] else boundAll cs := by
  cases cs with
  | nil => exact hlist []
  | cons c rest =>
    rw [combine_cons]
    split
    case isTrue => rfl
    case isFalse =>
      rw [← boundAll_filter (!decisive) (c :: rest)]
      generalize (c :: rest).filter (!isConst (!decisive) ·) = left
      match left with
      | [] => rfl
      | [d] => exact (List.append_nil _).symm
      | d :: d' :: left =>
        have hopen : boundAll ((d :: d' :: left).flatMap parts) = boundAll (d :: d' :: left) := by
          rw [boundAll_eq_flatMap, List.flatMap_assoc, boundAll_eq_flatMap]
          congr 1
          exact funext fun c => (boundAll_eq_flatMap _).symm.trans (hparts c)
        exact (hlist _).trans hopen

theorem bound_conj (cs : List Clause) :
    bound (conj cs) = if (cs.map residue).contains (.const false) then [] else boundAll cs := by
  rw [conj_eq_combine, bound_combine boundAll_conjuncts (fun _ => rfl), any_isConst_eq]

theorem bound_disj (cs : List Clause) :
    bound (disj cs) = if (cs.map residue).contains (.const true) then [] else boundAll cs := by
  rw [disj_eq_combine, bound_combine boundAll_disjuncts (fun _ => rfl), any_isConst_eq]

theorem residue_conj (cs : List Clause) : (conj cs).residue = .ofList false (cs.map residue) := by
  rw [conj_eq_combine, residue_combine fun _ => rfl]

theorem residue_disj (cs : List Clause) : (disj cs).residue = .ofList true (cs.map residue) := by
  rw [disj_eq_combine, residue_combine fun _ => rfl]

theorem residue_negate (c : Clause) : (negate c).residue = c.residue.negate := by
  cases c <;> rfl

/-! ### Clauses of conditions -/

theorem ofLabel?_of_isStored {label : Text} (h : isStored label = true) :
    ∃ c, Column.ofLabel? label = some c ∧ c.constant? = none := by
  obtain ⟨c, hc, hstored⟩ := (Option.any_eq_true _ _).1 h
  exact ⟨c, hc, Option.isNone_iff_eq_none.1 hstored⟩

theorem ofList_live {rs : List Residue} (h : ∀ r ∈ rs, r = .live) :
    Residue.ofList decisive rs = .live := by
  cases rs with
  | nil => rfl
  | cons r rest =>
    have hconst : ∀ b, (r :: rest).contains (.const b) = false := fun b =>
      Bool.eq_false_iff.2 fun hb => nomatch h _ (List.contains_iff_mem.1 hb)
    have hkept : (r :: rest).filter (· != .const (!decisive)) = r :: rest :=
      List.filter_eq_self.2 fun r' hr' => by rw [h r' hr']; rfl
    rw [Residue.ofList_cons, hconst, hkept]
    cases rest with
    | nil => exact h r (List.mem_singleton.2 rfl)
    | cons r' rest => rfl

/-- The comparisons of stored columns with a term. -/
theorem comparisons_stored (term : Text) {fields : List Text} (h : fields.all isStored = true) :
    ∃ cs, comparisons (Like.escape (Text.lower term)) fields = .ok cs ∧
      cs.map residue = fields.map (fun _ => .live) ∧
      List.Forall₂ Becomes (fields.map (·, term)) (boundAll cs) := by
  induction fields with
  | nil => exact ⟨[], rfl, rfl, .nil⟩
  | cons label rest ih =>
    rw [List.all_cons, Bool.and_eq_true] at h
    obtain ⟨c, hc, hstored⟩ := ofLabel?_of_isStored h.1
    obtain ⟨cs, hcs, hresidue, hbound⟩ := ih h.2
    have hcolumn : column label = .ok c := by simp only [column, hc]
    refine ⟨like c (Like.escape (Text.lower term)) false :: cs, ?_, ?_,
      .cons ⟨hc, hstored, rfl⟩ hbound⟩
    · simp only [comparisons, hcolumn, hcs]
    · rw [List.map_cons, List.map_cons, hresidue]
      rfl

variable {room : Nat}

theorem ofPredicate_contains_stored (term : Text) {fields : List Text}
    (h : fields.all isStored = true) (hroom : 1 ≤ room) :
    ∃ c, ofPredicate room (.contains term fields) = .ok c ∧
      c.residue = (Predicate.contains term fields).residue ∧
      List.Forall₂ Becomes (Predicate.contains term fields).survivors c.bound := by
  cases fields with
  | nil => exact ⟨const false, calling_of_le hroom, rfl, .nil⟩
  | cons label rest =>
    obtain ⟨cs, hcs, hresidue, hbound⟩ := comparisons_stored term h
    refine ⟨disj cs, by simp only [ofPredicate, calling_of_le hroom, hcs, Except.map], ?_, ?_⟩
    · rw [residue_disj, hresidue, ofList_live (by simp)]
      rfl
    · rw [bound_disj, hresidue, if_neg (by simp)]
      exact hbound

theorem ofPredicate_isNull_stored {label : Text} (h : isStored label = true) (hroom : 1 ≤ room) :
    ∃ c, ofPredicate room (.isNull label) = .ok c ∧ c.residue = .live ∧ c.bound = [] := by
  obtain ⟨c, hc, hstored⟩ := ofLabel?_of_isStored h
  refine ⟨isNull c false, ?_, rfl, rfl⟩
  rw [ofPredicate, calling_of_le hroom, nullTest, hc]
  cases c with
  | constant k => cases hstored
  | _ => rfl

mutual

/-- A condition on stored columns becomes a clause whose comparisons are those of the pairs that
are left of the condition, in their order. -/
theorem ofPredicate_survivors : ∀ {p : Predicate} {room : Nat}, p.namesColumns = true →
    p.depth translationCalls ≤ room →
    ∃ c, ofPredicate room p = .ok c ∧ c.residue = p.residue ∧
      List.Forall₂ Becomes p.survivors c.bound
  | .everything, _, _, hroom => ⟨const true, calling_of_le hroom, rfl, .nil⟩
  | .contains term _, _, h, hroom => ofPredicate_contains_stored term h hroom
  | .isNull _, _, h, hroom => by
    obtain ⟨c, hc, hresidue, hbound⟩ := ofPredicate_isNull_stored h hroom
    exact ⟨c, hc, hresidue, hbound ▸ .nil⟩
  | .all children, room, h, hroom => by
    have hchildren : Predicate.allNameColumns children = true := h
    rw [Predicate.depth] at hroom
    obtain ⟨cs, hcs, hresidue, hbound⟩ :=
      ofPredicates_survivors hchildren (Nat.le_sub_of_add_le' hroom)
    refine ⟨conj cs, ofPredicate_all (Nat.le_of_add_right_le hroom) hcs, ?_, ?_⟩
    · rw [residue_conj, hresidue, Predicate.residue]
    · rw [bound_conj, hresidue, Predicate.survivors]
      split
      · exact .nil
      · exact hbound
  | .any children, room, h, hroom => by
    have hchildren : Predicate.allNameColumns children = true := h
    rw [Predicate.depth] at hroom
    obtain ⟨cs, hcs, hresidue, hbound⟩ :=
      ofPredicates_survivors hchildren (Nat.le_sub_of_add_le' hroom)
    refine ⟨disj cs, ofPredicate_any (Nat.le_of_add_right_le hroom) hcs, ?_, ?_⟩
    · rw [residue_disj, hresidue, Predicate.residue]
    · rw [bound_disj, hresidue, Predicate.survivors]
      split
      · exact .nil
      · exact hbound
  | .not child, room, h, hroom => by
    rw [Predicate.depth] at hroom
    obtain ⟨c, hc, hresidue, hbound⟩ :=
      ofPredicate_survivors (p := child) h (Nat.le_sub_of_add_le' hroom)
    refine ⟨negate c, ofPredicate_not (Nat.le_of_add_right_le hroom) hc, ?_, ?_⟩
    · rw [residue_negate, hresidue, Predicate.residue]
    · rw [bound_negate, Predicate.survivors]
      exact hbound

/-- Several conditions become clauses with the comparisons of the pairs that are left of them. -/
theorem ofPredicates_survivors : ∀ {ps : List Predicate} {room : Nat},
    Predicate.allNameColumns ps = true → Predicate.depthOfAll translationCalls ps ≤ room →
    ∃ cs, ofPredicates room ps = .ok cs ∧ cs.map residue = Predicate.residues ps ∧
      List.Forall₂ Becomes (Predicate.survivorsOf ps) (boundAll cs)
  | [], _, _, _ => ⟨[], rfl, rfl, .nil⟩
  | p :: rest, _, h, hroom => by
    rw [Predicate.allNameColumns, Bool.and_eq_true] at h
    rw [Predicate.depthOfAll, max_le_iff] at hroom
    obtain ⟨c, hc, hresidue, hbound⟩ := ofPredicate_survivors h.1 hroom.1
    obtain ⟨cs, hcs, hresidues, hbounds⟩ := ofPredicates_survivors h.2 hroom.2
    refine ⟨c :: cs, by simp only [ofPredicates, hc, hcs], ?_, ?_⟩
    · rw [List.map_cons, hresidue, hresidues, Predicate.residues]
    · exact List.rel_append hbound hbounds

end

/-- Where there is not room enough, nothing else is wrong with a condition on stored columns. -/
theorem ofPredicate_stored_tooDeep {p : Predicate} {room : Nat} (h : p.namesColumns = true)
    (hdeep : room < p.depth translationCalls) : ofPredicate room p = .error .tooDeep := by
  obtain ⟨c, hc, -⟩ := ofPredicate_survivors h (Nat.le_refl _)
  exact ofPredicate_tooDeep hc (Nat.le_refl _) hdeep

end Clause

end AddressBook.Search
