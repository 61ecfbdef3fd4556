import AddressBook.Proofs.Search.Shapes
import AddressBook.Proofs.Store.Running
import AddressBook.Store.Find

/-!
What a search finds: every search text asks for a condition that can be put as a clause, and where
there is room to follow it, the contacts found are those in use that meet the condition, blind parts
being filled.
-/
namespace AddressBook.Search

variable {env : Conditions} {p : Predicate} {clause : Clause}

/-- A search text asks for a condition on text fields that has parts wherever it joins some. -/
theorem sensible_compile (query : Text) : (compile query).isSensible = true :=
  (shaped_compile query).sensible

/-! ### Found contacts -/

open AddressBook.Action

/-- The texts that are bound when a clause is used. -/
def Clause.terms (clause : Clause) : List (Option Text) :=
  clause.bound.map fun comparison => some comparison.2

/-- A clause can be used exactly if its terms can. -/
theorem clauseOf_eq (hc : Clause.ofPredicate env.room p = .ok clause)
    (hs : Clause.IsSolid clause) (s : Store) : Contacts.clauseOf env p s =
      (do
        bindTexts env clause.terms
        return clause : Action Clause) s := by
  have hreadable : Clause.allReadable true [clause] = true :=
    Clause.AllSolid.readable ⟨hs, trivial⟩
  have hclause : ofExcept Failure.query (Clause.ofPredicate env.room p) s = .ok clause s := by
    rw [hc]
    rfl
  unfold Contacts.clauseOf
  rw [bind_of_ok hclause]
  simp only [hreadable, Bool.not_true, Bool.false_eq_true, if_false]
  rfl

theorem clauseOf_run (hd : env.dialect = .plain)
    (hc : Clause.ofPredicate env.room p = .ok clause) (hs : Clause.IsSolid clause) (s : Store) :
    Contacts.clauseOf env p s = .ok clause s := by
  have hfits (ts : List (Option Text)) : env.Fits ts := by
    intro t _
    rw [hd]
    rfl
  rw [clauseOf_eq hc hs, bind_of_ok ((bindTexts_checks _).ok (hfits _) s)]
  rfl

theorem select_eq (env : Conditions) (clause : Clause) (group : Option Uuid) (s : Store) :
    Contacts.select env clause group s =
      if Contacts.answerable env s.tables clause group then
        .ok (Contacts.selected env s.tables clause group) s
      else .error .unreadableQuery s := by
  unfold Contacts.select
  rw [bind_of_ok (tables_run s)]
  cases Contacts.answerable env s.tables clause group <;> rfl

theorem select_run (hd : env.dialect = .plain) (clause : Clause) (group : Option Uuid)
    (s : Store) : Contacts.select env clause group s =
      .ok (Contacts.selected env s.tables clause group) s := by
  have hanswerable : Contacts.answerable env s.tables clause group = true := by
    unfold Contacts.answerable
    rw [hd]
    simp only [Clause.breaksOff_plain, Bool.and_false, Bool.not_false, List.all_eq_true,
      implies_true]
  rw [select_eq, hanswerable, if_pos rfl]

/-- The contacts in use, within a group if one is given, that pass a test. -/
def passing (t : Tables) (test : Contact → Bool) (group : Option Uuid) : List Contact :=
  t.contacts.filter fun c => c.active && test c && Contacts.inGroup t group c

theorem findIds_run (hd : env.dialect = .plain) (hp : p.isSensible = true)
    (hroom : p.depth translationCalls ≤ env.room) (group : Option Uuid) (s : Store) :
    Contacts.findIds env p group s = .ok
      ((passing s.tables (fun c => (p.filled (recordOf c)).holdsFor (recordOf c)) group).map
        (·.id)) s := by
  obtain ⟨clause, hclause, hsolid, hvalue⟩ := Clause.value_ofPredicate hp hroom
  have hselects (c : Contact) : clause.selects env.dialect c =
      (p.filled (recordOf c)).holdsFor (recordOf c) := by
    have htrue (b : Bool) : (some b == some true) = b := by cases b <;> rfl
    unfold Clause.selects
    rw [hd, hvalue]
    exact htrue _
  unfold Contacts.findIds
  rw [bind_of_ok (clauseOf_run hd hclause hsolid s), bind_of_ok (select_run hd clause group s)]
  simp only [Contacts.selected, passing, hselects]
  rfl

theorem findIds_tooDeep (hp : p.isSensible = true) (hdeep : env.room < p.depth translationCalls)
    (group : Option Uuid) (s : Store) :
    Contacts.findIds env p group s = .error (.query .tooDeep) s := by
  have hclause : ofExcept Failure.query (Clause.ofPredicate env.room p) s =
      .error (.query .tooDeep) s := by
    rw [Clause.ofPredicate_of_lt_depth hp hdeep]
    rfl
  have hused : Contacts.clauseOf env p s = .error (.query .tooDeep) s := by
    unfold Contacts.clauseOf
    rw [bind_of_error hclause]
  exact bind_of_error hused

/-- Where there is room for the calls that they take, a condition and its clause agree on a row
exactly if filling the blind parts of the condition changes nothing there, which is so if it has no
empty terms. A search finds the contacts that meet its condition filled in this way. -/
theorem clause_agrees_iff (hp : p.isSensible = true) (hroom : p.depth trialCalls ≤ env.room)
    (hd : env.dialect = .plain) (query : Text)
    (hquery : (compile query).depth trialCalls ≤ env.room) (group : Option Uuid) (s : Store) :
    (∃ clause, Clause.ofPredicate env.room p = .ok clause ∧
      ∀ row, p.tryOn (recordIn row) env.room = .ok (p.holdsFor (recordIn row)) ∧
        (clause.value .plain row = some true ↔
          (p.filled (recordIn row)).tryOn (recordIn row) env.room = .ok true) ∧
        ((clause.value .plain row = some true ↔ p.holdsFor (recordIn row) = true) ↔
          (p.filled (recordIn row)).holdsFor (recordIn row) = p.holdsFor (recordIn row)) ∧
        (p.hasTerms = true →
          (clause.value .plain row = some true ↔ p.holdsFor (recordIn row) = true))) ∧
    (∀ record, (compile query).tryOn record env.room = .ok ((compile query).holdsFor record)) ∧
    Contacts.findIds env (compile query) group s = .ok
      ((passing s.tables (fun c =>
        ((compile query).filled (recordOf c)).holdsFor (recordOf c)) group).map (·.id)) s ∧
    ((compile query).hasTerms = true →
      Contacts.findIds env (compile query) group s = .ok
        ((passing s.tables (fun c => (compile query).holdsFor (recordOf c)) group).map (·.id)) s) := by
  have hfewer {q : Predicate} (h : q.depth trialCalls ≤ env.room) :
      q.depth translationCalls ≤ env.room := Nat.le_trans (q.depth_mono (by decide)) h
  constructor
  · obtain ⟨clause, hclause, -, hvalue⟩ := Clause.value_ofPredicate hp (hfewer hroom)
    refine ⟨clause, hclause, fun row => ⟨Predicate.tryOn_of_depth_le hroom, ?_⟩⟩
    have hfilled : (p.filled (recordIn row)).depth trialCalls ≤ env.room := by
      rwa [p.depth_filled]
    rw [hvalue, Option.some.injEq, Predicate.tryOn_of_depth_le hfilled, Except.ok.injEq]
    refine ⟨Iff.rfl, Bool.eq_iff_iff.symm, fun hterms => ?_⟩
    rw [Predicate.filled_eq hterms]
  · have hfind := findIds_run hd (sensible_compile query) (hfewer hquery) group s
    refine ⟨fun record => Predicate.tryOn_of_depth_le hquery, hfind, fun hterms => ?_⟩
    simp only [Predicate.filled_eq hterms] at hfind
    exact hfind

theorem clause_agrees_term :
    ∃ clause, Clause.ofPredicate usualRoom (.not (.mentions ['a'])) = .ok clause ∧
      ∀ row, (clause.value .plain row = some true ↔
        (Predicate.not (.mentions ['a'])).tryOn (recordIn row) usualRoom = .ok true) := by
  have hp : (Predicate.not (.mentions ['a'])).isSensible = true := by decide
  have hroom : (Predicate.not (.mentions ['a'])).depth trialCalls ≤ usualRoom := by decide
  have hquery : (compile ['a']).depth trialCalls ≤ usualRoom := by decide
  have hd : (Conditions.fair 1).dialect = .plain := rfl
  obtain ⟨⟨clause, hclause, hrow⟩, -⟩ :=
    @clause_agrees_iff (.fair 1) _ hp hroom hd ['a'] hquery none {}
  refine ⟨clause, hclause, fun row => ?_⟩
  obtain ⟨htold, -, -, hagree⟩ := hrow row
  rw [hagree (by decide)]
  exact ⟨fun h => htold.trans (congrArg _ h), fun h => Except.ok.inj (htold.symm.trans h)⟩

/-- Where no field has a value, the clause that no field contains empty text is not true, though
no field contains anything. -/
theorem not_empty_term_disagrees : ¬ ∀ (p : Predicate), p.isSensible = true →
    ∀ room clause, Clause.ofPredicate room p = .ok clause → ∀ row,
      (clause.value .plain row = some true ↔ p.tryOn (recordIn row) room = .ok true) := by
  intro h
  have hnot := h (compile (Text.ofString "NOT \"\"")) (sensible_compile _) usualRoom _ rfl
    fun _ => none
  exact absurd (hnot.2 rfl) (by decide)

end AddressBook.Search
