import AddressBook.Proofs.Cleanup.Rules
import AddressBook.Proofs.Schema.Reading

/-!
What the request to change a contact comes to. A field that is left out, one that is given as null
and one that is given a text are told apart all the way; members of other names do not count.
-/
namespace AddressBook

open Schema

variable {f : Field} {fs : List Field} {values : List (Option (Option Text))} {changes : Changes}
  {m : Members}

/-- Field values that were amended: the fields that are named have the values that are given for
them, and all others have those that they had. -/
structure Amended (m : Members) (v v' : Fields) : Prop where
  named : ∀ (f : Field) j, m.get? f.title = some j → .optional .text (v'.get f) = j
  others : ∀ f : Field, m.get? f.title = none → v'.get f = v.get f

/-- Changes of those fields for which a value is given. -/
def givenChanges (fs : List Field) (values : List (Option (Option Text))) : Changes :=
  (fs.zip values).filterMap fun (f, value) => value.map (f, ·)

theorem notMem_givenChanges (h : f ∉ fs) : f ∉ (givenChanges fs values).map (·.1) := by
  intro hmem
  obtain ⟨⟨g, x⟩, hchange, rfl⟩ := List.mem_map.1 hmem
  obtain ⟨⟨g', value⟩, hzip, hvalue⟩ := List.mem_filterMap.1 hchange
  obtain ⟨y, -, hy⟩ := Option.map_eq_some_iff.1 hvalue
  cases hy
  exact h (List.of_mem_zip hzip).1

/-- Each field shows the value that was given for it, and its own if none was. -/
theorem get_givenChanges {R : Field → Option (Option Text) → Prop} (h : List.Forall₂ R fs values)
    (hn : fs.Nodup) (v : Fields) (hf : f ∈ fs) :
    ∃ value, R f value ∧ (v.apply (givenChanges fs values)).get f = value.getD (v.get f) := by
  induction h generalizing v with
  | nil => cases hf
  | @cons g value fs values hg _ ih =>
    obtain ⟨hnew, hn⟩ := List.nodup_cons.1 hn
    cases value with
    | none =>
      rcases List.mem_cons.1 hf with rfl | hf
      · have hrest : (v.apply (givenChanges fs values)).get f = v.get f :=
          Fields.get_apply_of_notMem (notMem_givenChanges hnew)
        exact ⟨none, hg, hrest⟩
      · exact ih hn v hf
    | some x =>
      rcases List.mem_cons.1 hf with rfl | hf
      · have hrest : ((v.set f x).apply (givenChanges fs values)).get f = (v.set f x).get f :=
          Fields.get_apply_of_notMem (notMem_givenChanges hnew)
        exact ⟨some x, hg, hrest.trans (Fields.get_set v f x)⟩
      · obtain ⟨value, hvalue, hget⟩ := ih hn (v.set g x) hf
        have hne : f ≠ g := fun he => hnew (he ▸ hf)
        rw [Fields.get_set_of_ne hne] at hget
        exact ⟨value, hvalue, hget⟩

/-- Changes that were read from a request amend the values of a contact as it says. -/
theorem amended_apply (h : contactChanges m = .ok changes) (v : Fields) :
    Amended m v (v.apply changes) := by
  obtain ⟨values, hvalues, rfl⟩ := Checked.of_map h
  have hreads := List.forall₂_map_left_iff.1 (Checked.of_list hvalues)
  have hall (f : Field) : ∃ value, given f.title (fieldValue f) m = .ok value ∧
      (v.apply (givenChanges Field.all values)).get f = value.getD (v.get f) :=
    get_givenChanges hreads (by decide) v (by cases f <;> decide)
  constructor
  · intro f j hj
    obtain ⟨value, hread, hget⟩ := hall f
    obtain ⟨hnone, -⟩ | ⟨j', x, hj', hx, rfl⟩ := given_cases hread
    · rw [hj] at hnone
      cases hnone
    · rw [hj] at hj'
      cases hj'
      exact (congrArg _ hget).trans (eq_of_fieldValue hx).symm
  · intro f hnone
    obtain ⟨value, hread, hget⟩ := hall f
    obtain ⟨-, rfl⟩ | ⟨j', x, hj', -, -⟩ := given_cases hread
    · exact hget
    · rw [hnone] at hj'
      cases hj'

end AddressBook
