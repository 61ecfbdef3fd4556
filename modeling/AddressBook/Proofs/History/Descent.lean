import AddressBook.Store.Action

/-!
The changes that lead from one version of a contact to another, last first. Each of them starts
from the values that the one before has left, and makes the next version.
-/
namespace AddressBook

/-- Changes that lead from a version with certain values to another. -/
inductive Descent (v₀ : Int) (f₀ : Fields) : List Revision → Int → Fields → Prop where
  | start : Descent v₀ f₀ [] v₀ f₀
  | revise {rs : List Revision} {r : Revision} (h : Descent v₀ f₀ rs r.version r.before) :
    Descent v₀ f₀ (r :: rs) (r.version + 1) r.after

variable {rs rs' : List Revision} {r r' : Revision} {u v v₀ : Int} {f f₀ g : Fields}

theorem Descent.version_eq (h : Descent v₀ f₀ rs v f) : v = v₀ + rs.length := by
  induction h with
  | start => simp
  | revise _ ih =>
    rw [List.length_cons]
    omega

theorem Descent.trans (h : Descent v₀ f₀ rs u g) (h' : Descent u g rs' v f) :
    Descent v₀ f₀ (rs' ++ rs) v f := by
  induction h' with
  | start => exact h
  | revise _ ih => exact .revise ih

theorem Descent.eq_after (h : Descent v₀ f₀ (r :: rs) v f) : f = r.after := by
  cases h
  rfl

/-- Without a change of the version there is no change of the values. -/
theorem Descent.eq_of_version (h : Descent v₀ f₀ rs v₀ f) : rs = [] ∧ f = f₀ := by
  have hv := h.version_eq
  have hrs : rs = [] := List.length_eq_zero_iff.1 (by omega)
  subst hrs
  cases h
  exact ⟨rfl, rfl⟩

theorem Descent.range_of_mem (h : Descent v₀ f₀ rs v f) (hr : r ∈ rs) :
    v₀ ≤ r.version ∧ r.version < v := by
  induction h with
  | start => cases hr
  | revise h ih =>
    have hv := h.version_eq
    cases hr with
    | head => omega
    | tail _ hr =>
      have := ih hr
      omega

theorem Descent.exists_of_range (h : Descent v₀ f₀ rs v f) (h₀ : v₀ ≤ u) (hu : u < v) :
    ∃ r ∈ rs, r.version = u := by
  induction h with
  | start => omega
  | @revise rs r h ih =>
    by_cases he : r.version = u
    · exact ⟨r, List.mem_cons_self .., he⟩
    · obtain ⟨r', hr', hv⟩ := ih (by omega)
      exact ⟨r', List.mem_cons_of_mem _ hr', hv⟩

/-- Later changes start from higher versions. -/
theorem Descent.descending (h : Descent v₀ f₀ rs v f) :
    rs.Pairwise fun a b => b.version < a.version := by
  induction h with
  | start => exact .nil
  | revise h ih => exact List.pairwise_cons.2 ⟨fun _ hr => (h.range_of_mem hr).2, ih⟩

/-- No two changes start from the same version. -/
theorem Descent.unique (h : Descent v₀ f₀ rs v f) (hr : r ∈ rs) (hr' : r' ∈ rs)
    (hv : r.version = r'.version) : r = r' := by
  induction h with
  | start => cases hr
  | revise h ih =>
    cases hr with
    | head =>
      cases hr' with
      | head => rfl
      | tail _ hr' =>
        have := h.range_of_mem hr'
        omega
    | tail _ hr =>
      cases hr' with
      | head =>
        have := h.range_of_mem hr
        omega
      | tail _ hr' => exact ih hr hr'

/-- The change of the first version starts from the first values. -/
theorem Descent.before_start (h : Descent v₀ f₀ rs v f) (hr : r ∈ rs) (hv : r.version = v₀) :
    r.before = f₀ := by
  induction h with
  | start => cases hr
  | revise h ih =>
    cases hr with
    | head =>
      rw [hv] at h
      exact h.eq_of_version.2
    | tail _ hr => exact ih hr

end AddressBook
