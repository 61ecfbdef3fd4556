import AddressBook.Proofs.Search.Clause
import AddressBook.Proofs.Search.Depth
import AddressBook.Proofs.Search.Like
import AddressBook.Search.Query

/-!
Agreement of the two ways to try a condition: as a clause of a stored query, and on a record at
hand. They agree but for one case. Where an empty term is looked for in fields that are all null,
the clause is true, as null counts as empty text there, but no field has a value to contain the
term.
-/
namespace AddressBook.Search

/-- A row as a record for conditions. -/
def recordIn (row : Column → Option Text) : Record := fun label => (Column.ofLabel? label).bind row

namespace Predicate

/-- Whether an empty term is looked for in some fields of which none has a value. -/
def isBlind (record : Record) (term : Text) (fields : List Text) : Bool :=
  term.isEmpty && !fields.isEmpty && fields.all fun f => (record f).isNone

mutual

/-- The condition in which those parts hold that look for an empty term where no field has a
value. -/
def filled (record : Record) : Predicate → Predicate
  | everything => everything
  | contains term fields =>
    if isBlind record term fields then everything else contains term fields
  | isNull field => isNull field
  | all children => all (filledAll record children)
  | any children => any (filledAll record children)
  | not child => not (filled record child)

/-- Several such conditions. -/
def filledAll (record : Record) : List Predicate → List Predicate
  | [] => []
  | p :: rest => filled record p :: filledAll record rest

end

mutual

/-- Whether a condition is about text fields only, and has parts wherever it joins some. -/
def isSensible : Predicate → Bool
  | everything => true
  | contains _ fields => fields.all searchable.contains
  | isNull field => searchable.contains field
  | all children | any children => !children.isEmpty && allSensible children
  | not child => isSensible child

/-- Whether several conditions are so. -/
def allSensible : List Predicate → Bool
  | [] => true
  | p :: rest => isSensible p && allSensible rest

end

mutual

/-- Whether no part of a condition looks for an empty term. -/
def hasTerms : Predicate → Bool
  | contains term _ => !term.isEmpty
  | all children | any children => allHaveTerms children
  | not child => hasTerms child
  | _ => true

/-- Whether no part of several conditions does. -/
def allHaveTerms : List Predicate → Bool
  | [] => true
  | p :: rest => hasTerms p && allHaveTerms rest

end

mutual

/-- Without empty terms there is nothing to fill. -/
theorem filled_eq {record : Record} : ∀ {p : Predicate}, p.hasTerms = true → p.filled record = p
  | everything, _ | isNull _, _ => rfl
  | contains term fields, h => by
    have hterm : term.isEmpty = false := by simpa [hasTerms] using h
    simp only [filled, isBlind, hterm, Bool.false_and, Bool.false_eq_true, if_false]
  | all children, h => by
    have hchildren : allHaveTerms children = true := h
    rw [filled, filledAll_eq hchildren]
  | any children, h => by
    have hchildren : allHaveTerms children = true := h
    rw [filled, filledAll_eq hchildren]
  | not child, h => by
    have hchild : child.hasTerms = true := h
    rw [filled, filled_eq hchild]

theorem filledAll_eq {record : Record} : ∀ {ps : List Predicate}, allHaveTerms ps = true →
    filledAll record ps = ps
  | [], _ => rfl
  | p :: rest, h => by
    rw [allHaveTerms, Bool.and_eq_true] at h
    rw [filledAll, filled_eq h.1, filledAll_eq h.2]

end

mutual

/-- Filling changes nothing about the nesting. -/
theorem depth_filled {record : Record} {k : Nat} : ∀ p : Predicate,
    (p.filled record).depth k = p.depth k
  | everything | isNull _ => rfl
  | contains term fields => by
    rw [filled]
    split <;> rfl
  | all children | any children => congrArg (k + ·) (depthOfAll_filled children)
  | not child => congrArg (1 + ·) (depth_filled child)

theorem depthOfAll_filled {record : Record} {k : Nat} : ∀ ps : List Predicate,
    depthOfAll k (filledAll record ps) = depthOfAll k ps
  | [] => rfl
  | p :: rest => by
    rw [filledAll, depthOfAll, depthOfAll, depth_filled p, depthOfAll_filled rest]

end

end Predicate

/-! ### Empty terms -/

theorem length_lowerLoop (before done t : Text) :
    done.length + t.length ≤ (Text.lowerLoop before done t).length := by
  induction t generalizing before done with
  | nil => simp [Text.lowerLoop]
  | cons c rest ih =>
    have hone : 1 ≤ (Text.lowerAt before c rest).length := by
      unfold Text.lowerAt
      split
      · simp
      · split <;> simp
    have hrest := ih (c :: before) ((Text.lowerAt before c rest).reverse ++ done)
    rw [List.length_append, List.length_reverse] at hrest
    rw [Text.lowerLoop, List.length_cons]
    omega

/-- Only empty text is empty in lower case. -/
theorem lower_eq_nil {t : Text} : Text.lower t = [] ↔ t = [] := by
  constructor
  · intro h
    have hlen := length_lowerLoop [] [] t
    have hnil : Text.lowerLoop [] [] t = [] := h
    rw [hnil] at hlen
    exact List.length_eq_zero_iff.1 (by simpa using hlen)
  · rintro rfl
    rfl

theorem nil_occursIn (t : Text) : Text.occursIn [] t = true := by
  cases t <;> rfl

theorem occursIn_getD {needle : Text} (h : needle ≠ []) (v : Option Text) :
    needle.occursIn (Text.lower (v.getD [])) = holds needle v := by
  cases v with
  | none =>
    cases needle with
    | nil => exact absurd rfl h
    | cons c rest => rfl
  | some v => rfl

/-- Looking for an empty term finds it in any text, null included. -/
theorem any_nil_occursIn (record : Record) (fields : List Text) :
    (fields.any fun f => Text.occursIn [] (Text.lower ((record f).getD []))) =
      ((Predicate.contains [] fields).filled record).holdsFor record := by
  have hleft : (fields.any fun f => Text.occursIn [] (Text.lower ((record f).getD []))) =
      !fields.isEmpty := by
    cases fields with
    | nil => rfl
    | cons f rest => rw [List.any_cons, nil_occursIn, Bool.true_or]; rfl
  rw [hleft, Predicate.filled]
  cases hb : Predicate.isBlind record [] fields with
  | true =>
    simp only [Predicate.isBlind, Bool.and_eq_true] at hb
    exact hb.1.2
  | false =>
    rw [if_neg (by simp), Predicate.holdsFor]
    cases fields with
    | nil => rfl
    | cons f rest =>
      -- not all of the fields are null, so that one of them has a value
      simp only [Predicate.isBlind, List.isEmpty_nil, List.isEmpty_cons, Bool.not_false,
        Bool.and_self, Bool.true_and, List.all_eq_false] at hb
      obtain ⟨g, hg, hsome⟩ := hb
      obtain ⟨v, hv⟩ := Option.ne_none_iff_exists'.1 (by simpa using hsome)
      symm
      apply List.any_eq_true.2
      exact ⟨g, hg, by rw [hv]; exact nil_occursIn _⟩

/-- Looking for a term where null counts as empty text. -/
theorem any_occursIn (record : Record) (term : Text) (fields : List Text) :
    (fields.any fun f => (Text.lower term).occursIn (Text.lower ((record f).getD []))) =
      ((Predicate.contains term fields).filled record).holdsFor record := by
  by_cases ht : term = []
  · subst ht
    exact any_nil_occursIn record fields
  · have hb : Predicate.isBlind record term fields = false := by
      simp [Predicate.isBlind, ht]
    have hlower : Text.lower term ≠ [] := fun h => ht (lower_eq_nil.1 h)
    rw [Predicate.filled, hb, if_neg (by simp), Predicate.holdsFor]
    simp only [occursIn_getD hlower]

/-! ### Clauses -/

namespace Clause

variable {row : Column → Option Text}

theorem ofLabel?_label (f : Field) : Column.ofLabel? f.label = some (.field f) := by
  cases f <;> rfl

theorem mem_searchable {label : Text} (h : searchable.contains label = true) :
    ∃ f : Field, label = f.label := by
  obtain ⟨f, -, hf⟩ := List.mem_map.1 (List.contains_iff_mem.1 h)
  exact ⟨f, hf.symm⟩

theorem recordIn_label (row : Column → Option Text) (f : Field) :
    recordIn row f.label = row (.field f) := by
  rw [recordIn, ofLabel?_label]
  rfl

theorem value_like (c : Column) (needle : Text) :
    value .plain row (like c (Like.escape needle) false) =
      some (needle.occursIn (Text.lower ((row c).getD []))) := by
  rw [value, compare, Bool.bne_false]
  exact congrArg some (Like.contains_escape needle _)

/-- The comparisons of text fields with a term. -/
theorem comparisons_spec (needle : Text) {fields : List Text}
    (h : fields.all searchable.contains = true) :
    ∃ cs, comparisons (Like.escape needle) fields = .ok cs ∧ AllSolid cs ∧
      cs.length = fields.length ∧ ∀ row, anyValue .plain row cs =
        some (fields.any fun f => needle.occursIn (Text.lower ((recordIn row f).getD []))) := by
  induction fields with
  | nil => exact ⟨[], rfl, trivial, rfl, fun _ => rfl⟩
  | cons label rest ih =>
    rw [List.all_cons, Bool.and_eq_true] at h
    obtain ⟨f, rfl⟩ := mem_searchable h.1
    obtain ⟨cs, hcs, hsolid, hlen, hvalue⟩ := ih h.2
    have hcolumn : column f.label = .ok (.field f) := by simp only [column, ofLabel?_label]
    have hlike : IsSolid (like (.field f) (Like.escape needle) false) := trivial
    refine ⟨_ :: cs, ?_, ⟨hlike, hsolid⟩, by rw [List.length_cons, hlen, List.length_cons], ?_⟩
    · simp only [comparisons, hcolumn, hcs]
    · intro row
      rw [anyValue_cons hlike, value_like, hvalue, Truth.or_some, List.any_cons, recordIn_label]

variable {room : Nat}

/-- The clause of a comparison of text fields with a term. -/
theorem ofPredicate_contains (term : Text) {fields : List Text}
    (h : fields.all searchable.contains = true) (hroom : 1 ≤ room) :
    ∃ c, ofPredicate room (.contains term fields) = .ok c ∧ IsSolid c ∧ ∀ row,
      value .plain row c =
        some (((Predicate.contains term fields).filled (recordIn row)).holdsFor
          (recordIn row)) := by
  cases fields with
  | nil =>
    refine ⟨const false, calling_of_le hroom, trivial, fun row => ?_⟩
    rw [← any_occursIn]
    rfl
  | cons label rest =>
    obtain ⟨cs, hcs, hsolid, hlen, hvalue⟩ := comparisons_spec (Text.lower term) h
    have hne : cs ≠ [] := by
      rintro rfl
      cases hlen
    refine ⟨disj cs, ?_, IsSolid.disj hsolid hne, fun row => ?_⟩
    · simp only [ofPredicate, calling_of_le hroom, hcs, Except.map]
    · rw [value_disj hsolid hne, hvalue, any_occursIn]

theorem ofPredicate_isNull {label : Text} (h : searchable.contains label = true)
    (hroom : 1 ≤ room) :
    ∃ c, ofPredicate room (.isNull label) = .ok c ∧ IsSolid c ∧ ∀ row,
      value .plain row c = some ((Predicate.isNull label).holdsFor (recordIn row)) := by
  obtain ⟨f, rfl⟩ := mem_searchable h
  refine ⟨isNull (.field f) false, ?_, trivial, fun row => ?_⟩
  · simp only [ofPredicate, calling_of_le hroom, nullTest, ofLabel?_label]
  · rw [value, Bool.bne_false, Predicate.holdsFor, recordIn_label]

mutual

/-- Where there is room, the clause of a condition has the truth value of the condition, blind parts
being filled. -/
theorem value_ofPredicate : ∀ {p : Predicate} {room : Nat}, p.isSensible = true →
    p.depth translationCalls ≤ room →
    ∃ c, ofPredicate room p = .ok c ∧ IsSolid c ∧ ∀ row,
      value .plain row c = some ((p.filled (recordIn row)).holdsFor (recordIn row))
  | .everything, _, _, hroom => ⟨const true, calling_of_le hroom, trivial, fun _ => rfl⟩
  | .contains term _, _, h, hroom => ofPredicate_contains term h hroom
  | .isNull _, _, h, hroom => ofPredicate_isNull h hroom
  | .all children, room, h, hroom => by
    rw [Predicate.isSensible, Bool.and_eq_true] at h
    rw [Predicate.depth] at hroom
    obtain ⟨cs, hcs, hsolid, hne, hall, -⟩ := values_ofPredicates h.2 (Nat.le_sub_of_add_le' hroom)
    have hne : cs ≠ [] := fun hnil => by simp [hne.1 hnil] at h
    refine ⟨conj cs, ofPredicate_all (Nat.le_of_add_right_le hroom) hcs,
      IsSolid.conj hsolid hne, fun row => ?_⟩
    rw [value_conj, hall]
    rfl
  | .any children, room, h, hroom => by
    rw [Predicate.isSensible, Bool.and_eq_true] at h
    rw [Predicate.depth] at hroom
    obtain ⟨cs, hcs, hsolid, hne, -, hany⟩ := values_ofPredicates h.2 (Nat.le_sub_of_add_le' hroom)
    have hne : cs ≠ [] := fun hnil => by simp [hne.1 hnil] at h
    refine ⟨disj cs, ofPredicate_any (Nat.le_of_add_right_le hroom) hcs,
      IsSolid.disj hsolid hne, fun row => ?_⟩
    rw [value_disj hsolid hne, hany]
    rfl
  | .not child, room, h, hroom => by
    rw [Predicate.depth] at hroom
    obtain ⟨c, hc, hsolid, hvalue⟩ :=
      value_ofPredicate (p := child) h (Nat.le_sub_of_add_le' hroom)
    refine ⟨negate c, ofPredicate_not (Nat.le_of_add_right_le hroom) hc, hsolid.negate,
      fun row => ?_⟩
    rw [value_negate, hvalue]
    rfl

/-- The clauses of several conditions have their truth values together. -/
theorem values_ofPredicates : ∀ {ps : List Predicate} {room : Nat},
    Predicate.allSensible ps = true → Predicate.depthOfAll translationCalls ps ≤ room →
    ∃ cs, ofPredicates room ps = .ok cs ∧ AllSolid cs ∧ (cs = [] ↔ ps = []) ∧
      (∀ row, allValue .plain row cs =
        some (Predicate.allHoldFor (recordIn row) (Predicate.filledAll (recordIn row) ps))) ∧
      ∀ row, anyValue .plain row cs =
        some (Predicate.anyHoldsFor (recordIn row) (Predicate.filledAll (recordIn row) ps))
  | [], _, _, _ => ⟨[], rfl, trivial, by simp, fun _ => rfl, fun _ => rfl⟩
  | p :: rest, _, h, hroom => by
    rw [Predicate.allSensible, Bool.and_eq_true] at h
    rw [Predicate.depthOfAll, max_le_iff] at hroom
    obtain ⟨c, hc, hsolid, hvalue⟩ := value_ofPredicate h.1 hroom.1
    obtain ⟨cs, hcs, hsolids, -, hall, hany⟩ := values_ofPredicates h.2 hroom.2
    refine ⟨c :: cs, by simp only [ofPredicates, hc, hcs], ⟨hsolid, hsolids⟩, by simp, ?_, ?_⟩
    · intro row
      rw [allValue, hvalue, hall, Truth.and_some]
      rfl
    · intro row
      rw [anyValue_cons hsolid, hvalue, hany, Truth.or_some]
      rfl

end

/-- Where there is not room enough, nothing else is wrong with a condition on text fields. -/
theorem ofPredicate_of_lt_depth {p : Predicate} {room : Nat} (h : p.isSensible = true)
    (hdeep : room < p.depth translationCalls) : ofPredicate room p = .error .tooDeep := by
  obtain ⟨c, hc, -⟩ := value_ofPredicate h (Nat.le_refl _)
  exact ofPredicate_tooDeep hc (Nat.le_refl _) hdeep

end Clause

end AddressBook.Search
