import AddressBook.Proofs.Search.Finding
import AddressBook.Proofs.Service.Run

/-!
A condition and its negation as clauses of a stored query. No clause has an unknown value, null or
not, so that the contacts in use fall apart into those that a condition finds and those that its
negation finds. The negation asks the store for the same comparisons: if the store cannot tell the
one, it cannot tell the other.
-/
namespace AddressBook.Search

namespace Clause

variable {d : Dialect} {row : Column → Option Text} {clause : Clause}

mutual

/-- A clause is true or false, whichever columns are null. -/
theorem value_known : ∀ c : Clause, ∃ b : Bool, value d row c = some b
  | const b | fixed b => ⟨b, rfl⟩
  | isNull _ _ | like _ _ _ => ⟨_, rfl⟩
  | all parts => allValue_known parts
  | any parts => by
    rw [value]
    split
    · exact ⟨true, rfl⟩
    · exact anyValue_known parts
  | not part => by
    obtain ⟨b, hb⟩ := value_known part
    exact ⟨!b, by rw [value, hb]; rfl⟩

theorem allValue_known : ∀ cs : List Clause, ∃ b : Bool, allValue d row cs = some b
  | [] => ⟨true, rfl⟩
  | c :: rest => by
    obtain ⟨b, hb⟩ := value_known c
    obtain ⟨b', hb'⟩ := allValue_known rest
    exact ⟨b && b', by rw [allValue, hb, hb', Truth.and_some]⟩

theorem anyValue_known : ∀ cs : List Clause, ∃ b : Bool, anyValue d row cs = some b
  | [] => ⟨false, rfl⟩
  | c :: rest => by
    obtain ⟨b, hb⟩ := value_known c
    obtain ⟨b', hb'⟩ := anyValue_known rest
    rw [anyValue]
    split
    · exact ⟨b', hb'⟩
    · exact ⟨b || b', by rw [hb, hb', Truth.or_some]⟩

end

/-- A clause that is not true of a contact is false of it, and its negation is true. -/
theorem selects_negate (d : Dialect) (c : Clause) (contact : Contact) :
    selects d (negate c) contact = !selects d c contact := by
  obtain ⟨b, hb⟩ : ∃ b : Bool, value d (Column.value contact) c = some b := value_known c
  unfold selects
  rw [value_negate, hb]
  cases b <;> rfl

theorem breaksOff_negate (c : Clause) : breaksOff d row (negate c) = breaksOff d row c := by
  cases c <;> rfl

end Clause

open AddressBook.Action Contacts

variable {env : Conditions} {p : Predicate} {clause : Clause} {s : Store} {e : Failure}
  {group : Option Uuid}

theorem ofPredicate_negate {room : Nat} (h : Clause.ofPredicate room p = .ok clause)
    (hroom : p.depth translationCalls < room) :
    Clause.ofPredicate room (.not p) = .ok clause.negate := by
  rw [Clause.ofPredicate_congr (Nat.le_of_lt hroom) (Nat.le_sub_one_of_lt hroom)] at h
  exact Clause.ofPredicate_not (Nat.one_le_of_lt hroom) h

theorem answerable_negate (env : Conditions) (t : Tables) (clause : Clause)
    (group : Option Uuid) :
    answerable env t clause.negate group = answerable env t clause group := by
  simp only [answerable, Clause.breaksOff_negate]

/-- Whether the clause of a condition asks a store for the same comparisons as another clause, and
the store can tell both or neither. -/
structure AsksLike (env : Conditions) (t : Tables) (group : Option Uuid) (clause : Clause)
    (p : Predicate) (clause' : Clause) : Prop where
  compiles : Clause.ofPredicate env.room p = .ok clause'
  solid : Clause.IsSolid clause'
  bound : clause'.bound = clause.bound
  answerable : answerable env t clause' group = Contacts.answerable env t clause group

/-- Conditions that ask for the same comparisons are all answered or all refused. -/
theorem findIds_alike (env : Conditions) (group : Option Uuid) (clause : Clause) (s : Store) :
    (∀ p clause', AsksLike env s.tables group clause p clause' → findIds env p group s =
      .ok ((selected env s.tables clause' group).map (·.id)) s) ∨
    ∃ e, ∀ p clause', AsksLike env s.tables group clause p clause' →
      findIds env p group s = .error e s := by
  have hclauseOf {p : Predicate} {clause' : Clause}
      (h : AsksLike env s.tables group clause p clause') : clauseOf env p s =
        (do
          bindTexts env clause.terms
          return clause' : Action Clause) s := by
    rw [clauseOf_eq h.compiles h.solid, Clause.terms, h.bound, Clause.terms]
  by_cases hfits : env.Fits clause.terms
  case neg =>
    obtain ⟨e, he⟩ := (bindTexts_checks _ s).2 hfits
    refine .inr ⟨e, fun p clause' h => ?_⟩
    have hrefused : clauseOf env p s = .error e s := by rw [hclauseOf h, bind_of_error he]
    exact bind_of_error hrefused
  have hused {p : Predicate} {clause' : Clause}
      (h : AsksLike env s.tables group clause p clause') : clauseOf env p s = .ok clause' s := by
    rw [hclauseOf h, bind_of_ok ((bindTexts_checks _).ok hfits s)]
    rfl
  cases hanswer : answerable env s.tables clause group with
  | false =>
    refine .inr ⟨.unreadableQuery, fun p clause' h => ?_⟩
    have hselect := select_eq env clause' group s
    rw [h.answerable, hanswer, if_neg Bool.false_ne_true] at hselect
    unfold findIds
    rw [bind_of_ok (hused h), bind_of_error hselect]
  | true =>
    refine .inl fun p clause' h => ?_
    have hselect := select_eq env clause' group s
    rw [h.answerable, hanswer, if_pos rfl] at hselect
    unfold findIds
    rw [bind_of_ok (hused h), bind_of_ok hselect]
    rfl

/-- The contacts in use, within a group if one is given, are those that a clause selects and those
that its negation selects. -/
theorem selected_negate_perm (env : Conditions) (t : Tables) (clause : Clause)
    (group : Option Uuid) :
    (selected env t clause group ++ selected env t clause.negate group).Perm
      (passing t (fun _ => true) group) := by
  have hparts (test : Contact → Bool) :
      t.contacts.filter (fun c => c.active && test c && inGroup t group c) =
        (passing t (fun _ => true) group).filter test := by
    rw [passing, List.filter_filter]
    congr 1
    funext c
    cases c.active <;> cases test c <;> cases inGroup t group c <;> rfl
  simp only [selected, Clause.selects_negate, hparts]
  exact List.filter_append_perm _ _

/-- Their identifiers are those of all contacts in use; where identifiers are distinct, none is on
both sides. -/
theorem selected_negate_ids (env : Conditions) (t : Tables) (clause : Clause)
    (group : Option Uuid) :
    ((selected env t clause group).map (·.id) ++
        (selected env t clause.negate group).map (·.id)).Perm
      ((passing t (fun _ => true) group).map (·.id)) ∧
    ((t.contacts.map (·.id)).Nodup → ∀ id ∈ (selected env t clause group).map (·.id),
      id ∉ (selected env t clause.negate group).map (·.id)) := by
  have hperm := (selected_negate_perm env t clause group).map (·.id)
  rw [List.map_append] at hperm
  refine ⟨hperm, fun hn id hid hid' => ?_⟩
  have hnodup := hn.sublist ((List.filter_sublist (p := fun c => c.active && true &&
    inGroup t group c)).map (·.id))
  exact (List.nodup_append.1 (hperm.nodup_iff.2 hnodup)).2.2 id hid id hid' rfl

theorem selected_negate_negate (env : Conditions) (t : Tables) (clause : Clause)
    (group : Option Uuid) :
    selected env t clause.negate.negate group = selected env t clause group := by
  simp only [selected, Clause.selects_negate, Bool.not_not]

/-- A condition on text fields becomes a clause that is true or false of every row, if it becomes one,
and its negation one that is the other. The contacts in use are those that the condition finds and
those that its negation finds, none of them twice, and the negation of the negation finds what the
condition finds. A store that does not search for every term refuses all three or none. All this
wants room for the calls that it takes to follow two negations. -/
theorem negation_complements (hp : p.isSensible = true) (env : Conditions) (group : Option Uuid)
    (s : Store) :
    (∀ room clause, Clause.ofPredicate room p = .ok clause →
      ∀ d row, ∃ b : Bool, clause.value d row = some b) ∧
    (env.room < (Predicate.not (.not p)).depth translationCalls ∧
        findIds env (.not (.not p)) group s = .error (.query .tooDeep) s ∨
      (∃ clause negation, Clause.ofPredicate env.room p = .ok clause ∧
        Clause.ofPredicate env.room (.not p) = .ok negation ∧
        ∀ d row, ∃ b : Bool, clause.value d row = some b ∧ negation.value d row = some !b) ∧
      ((∃ ids others, findIds env p group s = .ok ids s ∧
          findIds env (.not p) group s = .ok others s ∧
          findIds env (.not (.not p)) group s = .ok ids s ∧
          (ids ++ others).Perm ((passing s.tables (fun _ => true) group).map (·.id)) ∧
          ((s.tables.contacts.map (·.id)).Nodup → ∀ id ∈ ids, id ∉ others)) ∨
        ∃ e, env.dialect ≠ .plain ∧ findIds env p group s = .error e s ∧
          findIds env (.not p) group s = .error e s ∧
          findIds env (.not (.not p)) group s = .error e s)) := by
  refine ⟨fun room clause _ d row => Clause.value_known clause, ?_⟩
  by_cases hroom : (Predicate.not (.not p)).depth translationCalls ≤ env.room
  case neg =>
    have hdeep := Nat.not_le.1 hroom
    have hp' : (Predicate.not (.not p)).isSensible = true := hp
    exact .inl ⟨hdeep, findIds_tooDeep hp' hdeep group s⟩
  right
  have honly : p.depth translationCalls < env.room := by
    rw [Predicate.depth, Predicate.depth] at hroom
    omega
  have hnegated : (Predicate.not p).depth translationCalls < env.room := by
    rw [Predicate.depth] at hroom
    omega
  obtain ⟨clause, hclause, hsolid, -⟩ := Clause.value_ofPredicate hp (Nat.le_of_lt honly)
  have hnot := ofPredicate_negate hclause honly
  have hself : AsksLike env s.tables group clause p clause := ⟨hclause, hsolid, rfl, rfl⟩
  have honce : AsksLike env s.tables group clause (.not p) clause.negate :=
    ⟨hnot, hsolid.negate, Clause.bound_negate clause, answerable_negate ..⟩
  have htwice : AsksLike env s.tables group clause (.not (.not p)) clause.negate.negate :=
    ⟨ofPredicate_negate hnot hnegated, hsolid.negate.negate,
      by rw [Clause.bound_negate, Clause.bound_negate],
      by rw [answerable_negate, answerable_negate]⟩
  constructor
  · refine ⟨clause, clause.negate, hclause, hnot, fun d row => ?_⟩
    obtain ⟨b, hb⟩ : ∃ b : Bool, clause.value d row = some b := Clause.value_known clause
    exact ⟨b, hb, by rw [Clause.value_negate, hb]; rfl⟩
  rcases findIds_alike env group clause s with hfind | ⟨e, hfind⟩
  · have hfound := hfind _ _ htwice
    rw [selected_negate_negate] at hfound
    exact .inl ⟨_, _, hfind _ _ hself, hfind _ _ honce, hfound,
      selected_negate_ids env s.tables clause group⟩
  · refine .inr ⟨e, fun hd => ?_, hfind _ _ hself, hfind _ _ honce, hfind _ _ htwice⟩
    have hok := findIds_run hd hp (Nat.le_of_lt honly) group s
    rw [hfind _ _ hself] at hok
    cases hok

/-- A condition with lists and negations inside lists, on fields of which some are null. -/
def knotted : Predicate :=
  .all [.any [.isNull Field.phone.label, .not (.contains ['%'] [Field.notes.label])],
    .not (.all [.mentions ['b'], .everything])]

theorem negation_complements_knotted :
    knotted.isSensible = true ∧ ∃ ids others,
      findIds (.fair 3) knotted none (Store.run {} renamedOnce) =
        .ok ids (Store.run {} renamedOnce) ∧
      findIds (.fair 3) (.not knotted) none (Store.run {} renamedOnce) =
        .ok others (Store.run {} renamedOnce) ∧
      ∀ id ∈ ids, id ∉ others := by
  have hp : knotted.isSensible = true := by decide
  have hroom : (Predicate.not (.not knotted)).depth translationCalls ≤ usualRoom := by decide
  have hn : ((Store.run {} renamedOnce).tables.contacts.map (·.id)).Nodup := by decide
  refine ⟨hp, ?_⟩
  rcases (negation_complements hp (.fair 3) none (Store.run {} renamedOnce)).2 with
    ⟨hdeep, -⟩ | ⟨-, ⟨ids, others, hids, hothers, -, -, hdisjoint⟩ | ⟨e, hplain, -⟩⟩
  · exact absurd hroom (Nat.not_le.2 hdeep)
  · exact ⟨ids, others, hids, hothers, hdisjoint hn⟩
  · exact absurd rfl hplain

end AddressBook.Search
