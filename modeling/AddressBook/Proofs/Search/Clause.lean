import AddressBook.Search.Clause

/-!
The value of the clauses that are built from others. Absorbing constants and opening lists inside
lists does not change the value, as long as no list is empty.
-/
namespace AddressBook.Search.Clause

namespace Truth

theorem true_and (a : Truth) : and (some true) a = a := by
  rcases a with _ | _ | _ <;> rfl

theorem and_true (a : Truth) : and a (some true) = a := by
  rcases a with _ | _ | _ <;> rfl

theorem and_false (a : Truth) : and a (some false) = some false := by
  rcases a with _ | _ | _ <;> rfl

theorem and_assoc (a b c : Truth) : and (and a b) c = and a (and b c) := by
  rcases a with _ | _ | _ <;> rcases b with _ | _ | _ <;> rcases c with _ | _ | _ <;> rfl

theorem and_some (a b : Bool) : and (some a) (some b) = some (a && b) := by
  cases a <;> cases b <;> rfl

theorem or_some (a b : Bool) : or (some a) (some b) = some (a || b) := by
  cases a <;> cases b <;> rfl

theorem false_or (a : Truth) : or (some false) a = a := by
  rcases a with _ | _ | _ <;> rfl

theorem or_false (a : Truth) : or a (some false) = a := by
  rcases a with _ | _ | _ <;> rfl

theorem or_true (a : Truth) : or a (some true) = some true := by
  rcases a with _ | _ | _ <;> rfl

theorem or_assoc (a b c : Truth) : or (or a b) c = or a (or b c) := by
  rcases a with _ | _ | _ <;> rcases b with _ | _ | _ <;> rcases c with _ | _ | _ <;> rfl

end Truth

mutual

/-- No list of clauses inside a clause is empty. -/
def IsSolid : Clause → Prop
  | all parts | any parts => parts ≠ [] ∧ AllSolid parts
  | not part => IsSolid part
  | _ => True

/-- No list of clauses inside several clauses is empty. -/
def AllSolid : List Clause → Prop
  | [] => True
  | c :: rest => IsSolid c ∧ AllSolid rest

end

variable {d : Dialect} {row : Column → Option Text} {c : Clause} {cs : List Clause} {wrap : Bool}
  {decisive : Bool} {parts : Clause → List Clause} {list : List Clause → Clause}

theorem allSolid_iff : AllSolid cs ↔ ∀ c ∈ cs, IsSolid c := by
  induction cs with
  | nil => simp [AllSolid]
  | cons c rest ih => simp [AllSolid, ih]

mutual

theorem IsSolid.not_blank : ∀ {c : Clause}, IsSolid c → isBlank c = false
  | const _, _ | fixed _, _ | isNull _ _, _ | like _ _ _, _ | not _, _ => rfl
  | all _, h => AllSolid.not_blank h.2 h.1
  | any _, h => AllSolid.not_blank h.2 h.1

theorem AllSolid.not_blank {wrap : Bool} : ∀ {cs : List Clause}, AllSolid cs → cs ≠ [] →
    allBlank wrap cs = false
  | [], _, hne => absurd rfl hne
  | c :: rest, h, _ => by simp [allBlank, h.1.not_blank]

end

mutual

theorem IsSolid.readable : ∀ {c : Clause}, IsSolid c → isReadable c = true
  | const _, _ | fixed _, _ | isNull _ _, _ | like _ _ _, _ => rfl
  | not part, h => by
    have hp : IsSolid part := h
    simp [isReadable, hp.not_blank, hp.readable]
  | all _, h => AllSolid.readable h.2
  | any _, h => AllSolid.readable h.2

theorem AllSolid.readable {wrap : Bool} : ∀ {cs : List Clause}, AllSolid cs →
    allReadable wrap cs = true
  | [], _ => rfl
  | c :: rest, h => by simp [allReadable, h.1.not_blank, h.1.readable, AllSolid.readable h.2]

end

theorem allValue_append (cs cs' : List Clause) :
    allValue d row (cs ++ cs') = Truth.and (allValue d row cs) (allValue d row cs') := by
  induction cs with
  | nil => simp [allValue, Truth.true_and]
  | cons c rest ih => simp [allValue, ih, Truth.and_assoc]

theorem anyValue_append (cs cs' : List Clause) :
    anyValue d row (cs ++ cs') = Truth.or (anyValue d row cs) (anyValue d row cs') := by
  induction cs with
  | nil => simp [anyValue, Truth.false_or]
  | cons c rest ih =>
    simp only [List.cons_append, anyValue]
    split
    · exact ih
    · rw [ih, Truth.or_assoc]

theorem anyValue_cons (h : IsSolid c) (cs : List Clause) :
    anyValue d row (c :: cs) = Truth.or (value d row c) (anyValue d row cs) := by
  rw [anyValue, h.not_blank]
  rfl

theorem eq_of_isConst {b : Bool} (h : isConst b c = true) : c = const b := by
  cases c <;> simp_all [isConst]

/-! ### Conjunctions -/

theorem allValue_conjuncts (c : Clause) : allValue d row (conjuncts c) = value d row c := by
  cases c with
  | all parts => rfl
  | _ => simp only [conjuncts, allValue, Truth.and_true]

theorem allValue_flatMap (cs : List Clause) :
    allValue d row (cs.flatMap conjuncts) = allValue d row cs := by
  induction cs with
  | nil => rfl
  | cons c rest ih => rw [List.flatMap_cons, allValue_append, allValue_conjuncts, ih, allValue]

theorem allValue_of_false (h : cs.any (isConst false) = true) :
    allValue d row cs = some false := by
  induction cs with
  | nil => cases h
  | cons c rest ih =>
    rw [List.any_cons, Bool.or_eq_true] at h
    rcases h with h | h
    · rw [eq_of_isConst h]
      rfl
    · rw [allValue, ih h, Truth.and_false]

theorem allValue_filter (cs : List Clause) :
    allValue d row (cs.filter (!isConst true ·)) = allValue d row cs := by
  induction cs with
  | nil => rfl
  | cons c rest ih =>
    rw [List.filter_cons]
    split
    case isTrue => rw [allValue, allValue, ih]
    case isFalse h =>
      have hc : c = const true := eq_of_isConst (by simpa using h)
      rw [ih, hc, allValue, value, Truth.true_and]

/-- The conjunction of clauses has the value that they have together. -/
theorem value_conj (cs : List Clause) : value d row (conj cs) = allValue d row cs := by
  unfold conj
  split
  case h_1 => rfl
  case h_2 =>
    split
    case isTrue h => rw [allValue_of_false h, value]
    case isFalse =>
      rw [← allValue_filter cs]
      generalize cs.filter (!isConst true ·) = rest
      split
      case h_1 => rfl
      case h_2 c => rw [allValue, allValue, Truth.and_true]
      case h_3 => rw [value, allValue_flatMap]

/-! ### Disjunctions -/

theorem anyValue_disjuncts (h : IsSolid c) : anyValue d row (disjuncts c) = value d row c := by
  have hsingle : anyValue d row [c] = value d row c := by
    rw [anyValue_cons h, anyValue, Truth.or_false]
  cases c with
  | any parts =>
    have hparts : allBlank false parts = false := AllSolid.not_blank h.2 h.1
    simp only [disjuncts, value, hparts, Bool.false_eq_true, if_false]
  | _ => exact hsingle

theorem anyValue_flatMap (h : AllSolid cs) :
    anyValue d row (cs.flatMap disjuncts) = anyValue d row cs := by
  induction cs with
  | nil => rfl
  | cons c rest ih =>
    rw [List.flatMap_cons, anyValue_append, anyValue_disjuncts h.1, ih h.2, anyValue_cons h.1]

theorem anyValue_of_true (h : cs.any (isConst true) = true) : anyValue d row cs = some true := by
  induction cs with
  | nil => cases h
  | cons c rest ih =>
    rw [List.any_cons, Bool.or_eq_true] at h
    rcases h with h | h
    · rw [eq_of_isConst h]
      rfl
    · rw [anyValue, ih h, Truth.or_true, ite_self]

theorem anyValue_filter (cs : List Clause) :
    anyValue d row (cs.filter (!isConst false ·)) = anyValue d row cs := by
  induction cs with
  | nil => rfl
  | cons c rest ih =>
    rw [List.filter_cons]
    split
    case isTrue => rw [anyValue, anyValue, ih]
    case isFalse h =>
      have hc : c = const false := eq_of_isConst (by simpa using h)
      rw [ih, hc, anyValue, value, Truth.false_or]
      rfl

theorem AllSolid.filter (h : AllSolid cs) (p : Clause → Bool) : AllSolid (cs.filter p) :=
  allSolid_iff.2 fun c hc => allSolid_iff.1 h c (List.mem_filter.1 hc).1

/-- Opening lists inside a list leaves something in it. -/
theorem AllSolid.flatMap {f : Clause → List Clause}
    (hf : ∀ c, IsSolid c → f c ≠ [] ∧ AllSolid (f c)) (h : AllSolid cs) (hne : cs ≠ []) :
    cs.flatMap f ≠ [] ∧ AllSolid (cs.flatMap f) := by
  constructor
  · cases cs with
    | nil => exact absurd rfl hne
    | cons c rest => simp [(hf c h.1).1]
  · apply allSolid_iff.2
    intro x hx
    obtain ⟨c, hc, hxc⟩ := List.mem_flatMap.1 hx
    exact allSolid_iff.1 (hf c (allSolid_iff.1 h c hc)).2 x hxc

theorem IsSolid.conjuncts (h : IsSolid c) : conjuncts c ≠ [] ∧ AllSolid (conjuncts c) := by
  cases c with
  | all parts => exact h
  | _ => exact ⟨by simp [Clause.conjuncts], h, trivial⟩

theorem IsSolid.disjuncts (h : IsSolid c) : disjuncts c ≠ [] ∧ AllSolid (disjuncts c) := by
  cases c with
  | any parts => exact h
  | _ => exact ⟨by simp [Clause.disjuncts], h, trivial⟩

/-- The disjunction of clauses has the value that one or another of them has. -/
theorem value_disj (h : AllSolid cs) (hne : cs ≠ []) :
    value d row (disj cs) = anyValue d row cs := by
  unfold disj
  split
  case h_1 => exact absurd rfl hne
  case h_2 =>
    split
    case isTrue htrue => rw [anyValue_of_true htrue, value]
    case isFalse =>
      rw [← anyValue_filter cs]
      have hrest := h.filter (!isConst false ·)
      generalize cs.filter (!isConst false ·) = rest at hrest
      split
      case h_1 => rfl
      case h_2 c =>
        rw [anyValue_cons hrest.1, anyValue, Truth.or_false]
      case h_3 hnil _ =>
        obtain ⟨hopen, hsolid⟩ := hrest.flatMap (fun _ => IsSolid.disjuncts) hnil
        rw [value, AllSolid.not_blank hsolid hopen, anyValue_flatMap hrest]
        rfl

/-! ### Either list -/

/-- A list of clauses with its constants absorbed: `decisive` decides it, and its opposite is
dropped. The other clauses are opened and put in one list. -/
def combine (decisive : Bool) (parts : Clause → List Clause) (list : List Clause → Clause) :
    List Clause → Clause
  | [] => list []
  | cs =>
    if cs.any (isConst decisive) then fixed decisive
    else match cs.filter (!isConst (!decisive) ·) with
      | [] => fixed (!decisive)
      | [c] => c
      | cs => list (cs.flatMap parts)

theorem conj_eq_combine (cs : List Clause) : conj cs = combine false conjuncts all cs := by
  cases cs <;> rfl

theorem disj_eq_combine (cs : List Clause) : disj cs = combine true disjuncts any cs := by
  cases cs <;> rfl

theorem combine_cons (c : Clause) (rest : List Clause) :
    combine decisive parts list (c :: rest) =
      if (c :: rest).any (isConst decisive) then fixed decisive
      else match (c :: rest).filter (!isConst (!decisive) ·) with
        | [] => fixed (!decisive)
        | [c] => c
        | cs => list (cs.flatMap parts) := rfl

theorem IsSolid.combine (hparts : ∀ c, IsSolid c → parts c ≠ [] ∧ AllSolid (parts c))
    (hlist : ∀ cs, cs ≠ [] ∧ AllSolid cs → IsSolid (list cs)) (h : AllSolid cs) (hne : cs ≠ []) :
    IsSolid (combine decisive parts list cs) := by
  unfold Clause.combine
  split
  case h_1 => exact absurd rfl hne
  case h_2 =>
    split
    case isTrue => trivial
    case isFalse =>
      have hrest := h.filter (!isConst (!decisive) ·)
      generalize cs.filter (!isConst (!decisive) ·) = rest at hrest
      split
      case h_1 => trivial
      case h_2 => exact hrest.1
      case h_3 hnil _ => exact hlist _ (hrest.flatMap hparts hnil)

theorem IsSolid.conj (h : AllSolid cs) (hne : cs ≠ []) : IsSolid (conj cs) := by
  rw [conj_eq_combine]
  exact .combine (fun _ => IsSolid.conjuncts) (fun _ h => h) h hne

theorem IsSolid.disj (h : AllSolid cs) (hne : cs ≠ []) : IsSolid (disj cs) := by
  rw [disj_eq_combine]
  exact .combine (fun _ => IsSolid.disjuncts) (fun _ h => h) h hne

/-! ### Negations -/

/-- The negation of a clause has the opposite value, which is unknown only if the value is. -/
theorem value_negate (c : Clause) : value d row (negate c) = Truth.not (value d row c) := by
  cases c with
  | isNull column negated => cases negated <;> simp [negate, value, Truth.not]
  | like column escaped negated => cases negated <;> simp [negate, value, Truth.not]
  | _ => rfl

theorem IsSolid.negate (h : IsSolid c) : IsSolid (negate c) := by
  cases c with
  | const b => trivial
  | fixed b => trivial
  | isNull column negated => trivial
  | like column escaped negated => trivial
  | _ => exact h

/-- A negation compares what the clause compares. -/
theorem bound_negate (c : Clause) : bound (negate c) = bound c := by
  cases c <;> rfl

/-! ### Terms that are too long -/

mutual

theorem breaksOff_plain (row : Column → Option Text) : ∀ c, breaksOff .plain row c = false
  | const _ | fixed _ | isNull _ _ | like _ _ _ => rfl
  | all parts => someBreaksOff_plain row false parts
  | any parts => someBreaksOff_plain row true parts
  | not part => breaksOff_plain row part

theorem someBreaksOff_plain (row : Column → Option Text) (decisive : Bool) :
    ∀ cs, someBreaksOff .plain row decisive cs = false
  | [] => rfl
  | c :: rest => by
    rw [someBreaksOff, breaksOff_plain row c, someBreaksOff_plain row decisive rest,
      Bool.and_false, Bool.or_false]

end

end AddressBook.Search.Clause
