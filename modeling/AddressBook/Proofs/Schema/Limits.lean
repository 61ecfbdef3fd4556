import AddressBook.Proofs.Cleanup.Rules
import AddressBook.Proofs.Schema.Reading

/-! The limits of fields, which all values that are read from a request keep. -/
namespace AddressBook

/-- A text is within the limit of a field. -/
def Field.Admits (f : Field) (t : Text) : Prop :=
  ∀ n, Schema.fieldLimit f = some n → t.length ≤ n

instance (f : Field) (t : Text) : Decidable (f.Admits t) :=
  decidable_of_iff (∀ n ∈ Schema.fieldLimit f, t.length ≤ n) Iff.rfl

/-- All values are within the limits of their fields. -/
def Fields.Within (v : Fields) : Prop := ∀ f t, v.get f = some t → f.Admits t

instance (v : Fields) : Decidable v.Within :=
  decidable_of_iff (∀ f ∈ Field.all, ∀ t ∈ v.get f, f.Admits t)
    ⟨fun h f t ht => h f (by cases f <;> decide) t ht, fun h f _ t ht => h f t ht⟩

variable {f : Field} {t u : Text} {v w : Fields} {x : Option Text} {changes : Changes}

theorem Field.Admits.of_length_le (h : f.Admits t) (hu : u.length ≤ t.length) : f.Admits u :=
  fun n hn => Nat.le_trans hu (h n hn)

theorem Fields.Within.set (h : v.Within) (hx : ∀ t, x = some t → f.Admits t) :
    (v.set f x).Within := by
  intro g t hg
  by_cases hgf : g = f
  · subst hgf
    rw [get_set] at hg
    exact hx t hg
  · rw [get_set_of_ne hgf] at hg
    exact h g t hg

theorem Fields.Within.apply (h : v.Within)
    (hc : ∀ f x, (f, x) ∈ changes → ∀ t, x = some t → f.Admits t) : (v.apply changes).Within := by
  induction changes generalizing v with
  | nil => exact h
  | cons change rest ih =>
    have hset := h.set (hc change.1 change.2 (List.mem_cons_self ..))
    exact ih hset fun f x hx => hc f x (List.mem_cons_of_mem _ hx)

theorem Fields.Within.toChanges (h : v.Within) (hw : w.Within) :
    (v.apply w.toChanges).Within := by
  apply h.apply
  intro f x hx t ht
  obtain ⟨g, -, hg⟩ := List.mem_map.1 hx
  cases hg
  exact hw _ t ht

/-- Only names, e-mail addresses and telephone numbers have limits. -/
theorem Fields.within_iff : v.Within ↔ (∀ t, v.name = some t → Field.name.Admits t) ∧
    (∀ t, v.email = some t → Field.email.Admits t) ∧
      ∀ t, v.phone = some t → Field.phone.Admits t := by
  constructor
  · intro h
    exact ⟨h .name, h .email, h .phone⟩
  · rintro ⟨hname, hemail, hphone⟩ f t ht
    cases f with
    | name => exact hname t ht
    | email => exact hemail t ht
    | phone => exact hphone t ht
    | address => exact nofun
    | notes => exact nofun

/-! ### Requests -/

namespace Schema

variable {m : Members}

theorem admits_of_fieldValue {j : Json} (h : fieldValue f j = .ok (some t)) : f.Admits t := by
  intro n hn
  unfold fieldValue at h
  rw [hn] at h
  exact (of_boundedText (of_nullable h)).2

theorem admits_of_defaulted (h : defaulted f.title (fieldValue f) none m = .ok x) :
    ∀ t, x = some t → f.Admits t := by
  rintro t rfl
  obtain hnone | ⟨j, hj⟩ := of_defaulted h
  · cases hnone
  · exact admits_of_fieldValue hj

theorem within_of_newContact (h : newContact m = .ok v) : v.Within := by
  obtain ⟨_, notes, h₄, -, rfl⟩ := Checked.of_on h
  obtain ⟨_, address, h₃, -, rfl⟩ := Checked.of_on h₄
  obtain ⟨_, phone, h₂, hphone, rfl⟩ := Checked.of_on h₃
  obtain ⟨_, email, h₁, hemail, rfl⟩ := Checked.of_on h₂
  obtain ⟨_, name, h₀, hname, rfl⟩ := Checked.of_on h₁
  cases h₀
  exact Fields.within_iff.2 ⟨admits_of_defaulted hname, admits_of_defaulted hemail,
    admits_of_defaulted hphone⟩

theorem admits_of_contactChanges (h : contactChanges m = .ok changes) (hx : (f, x) ∈ changes) :
    ∀ t, x = some t → f.Admits t := by
  rintro t rfl
  obtain ⟨values, hvalues, rfl⟩ := Checked.of_map h
  obtain ⟨⟨g, value⟩, hmem, hg⟩ := List.mem_filterMap.1 hx
  obtain ⟨y, rfl, hy⟩ := Option.map_eq_some_iff.1 hg
  cases hy
  have hreads := List.forall₂_map_left_iff.1 (Checked.of_list hvalues)
  obtain ⟨j, hj⟩ := of_given (List.forall₂_zip hreads hmem)
  exact admits_of_fieldValue hj

end Schema

end AddressBook
