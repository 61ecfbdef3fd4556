import Mathlib.Data.List.Forall2
import AddressBook.Schema.Requests

/-! What can be said of values that were read from a request. -/
namespace AddressBook.Schema

variable {α β : Type} {read : Reader α} {name : String} {m : Members} {v : Json}

theorem Checked.of_on {f : Checked (α → β)} {x : Checked α} {y : β} (h : Checked.on f x = .ok y) :
    ∃ g a, f = .ok g ∧ x = .ok a ∧ g a = y := by
  cases f with
  | error e => cases x <;> cases h
  | ok g =>
    cases x with
    | error e => cases h
    | ok a =>
      cases h
      exact ⟨g, a, rfl, rfl, rfl⟩

theorem Checked.of_under {step : Step} {x : Checked α} {a : α}
    (h : Checked.under step x = .ok a) : x = .ok a := by
  cases x with
  | error e => cases h
  | ok b => exact h

theorem of_toOption {ε : Type} {x : Except ε α} {a : α} (h : x.toOption = some a) : x = .ok a := by
  cases x with
  | error e => cases h
  | ok b =>
    cases h
    rfl

theorem Checked.of_map {f : α → β} {x : Checked α} {y : β} (h : x.map f = .ok y) :
    ∃ a, x = .ok a ∧ f a = y := by
  cases x with
  | error e => cases h
  | ok a =>
    cases h
    exact ⟨a, rfl, rfl⟩

theorem Checked.of_list {xs : List (Checked α)} {ys : List α}
    (h : Checked.list xs = .ok ys) : List.Forall₂ (fun x y => x = .ok y) xs ys := by
  induction xs generalizing ys with
  | nil =>
    cases h
    exact .nil
  | cons x rest ih =>
    obtain ⟨g, zs, hg, hrest, rfl⟩ := Checked.of_on h
    cases x with
    | error e => cases hg
    | ok y =>
      cases hg
      exact .cons rfl (ih hrest)

theorem of_defaulted {d x : α} (h : defaulted name read d m = .ok x) :
    x = d ∨ ∃ j, read j = .ok x := by
  unfold defaulted at h
  cases hj : m.get? name with
  | none =>
    rw [hj] at h
    cases h
    exact .inl rfl
  | some j =>
    rw [hj] at h
    exact .inr ⟨j, Checked.of_under h⟩

/-- A member that may be left out is left out, or it was read. -/
theorem given_cases {x : Option α} (h : given name read m = .ok x) :
    m.get? name = none ∧ x = none ∨
      ∃ j y, m.get? name = some j ∧ read j = .ok y ∧ x = some y := by
  unfold given at h
  cases hj : m.get? name with
  | none =>
    rw [hj] at h
    cases h
    exact .inl ⟨rfl, rfl⟩
  | some j =>
    rw [hj] at h
    obtain ⟨y, hread, rfl⟩ := Checked.of_map (Checked.of_under h)
    exact .inr ⟨j, y, rfl, hread, rfl⟩

theorem of_given {x : α} (h : given name read m = .ok (some x)) : ∃ j, read j = .ok x := by
  obtain ⟨-, ⟨⟩⟩ | ⟨j, y, -, hread, ⟨⟩⟩ := given_cases h
  exact ⟨j, hread⟩

theorem eq_of_text {t : Text} (h : text v = .ok t) : v = .text t := by
  cases v <;> cases h
  rfl

theorem of_boundedText {least most : Nat} {t : Text} (h : boundedText least most v = .ok t) :
    v = .text t ∧ t.length ≤ most := by
  unfold boundedText at h
  split at h
  · unfold lookedInto at h
    split at h
    · cases h
    · dsimp only at h
      split at h
      · cases h
      · split at h
        · cases h
        · cases h
          exact ⟨rfl, by omega⟩
  · cases h

theorem eq_of_nullable {read : Reader Text} {x : Option Text}
    (hread : ∀ v t, read v = .ok t → v = .text t) (h : nullable read v = .ok x) :
    v = .optional .text x := by
  unfold nullable at h
  split at h
  · cases h
    rfl
  · obtain ⟨t, ht, rfl⟩ := Checked.of_map h
    exact hread _ t ht

/-- A field takes its value as it is given. -/
theorem eq_of_fieldValue {f : Field} {x : Option Text} (h : fieldValue f v = .ok x) :
    v = .optional .text x := by
  unfold fieldValue at h
  cases hlimit : fieldLimit f with
  | none =>
    rw [hlimit] at h
    exact eq_of_nullable (fun _ _ => eq_of_text) h
  | some most =>
    rw [hlimit] at h
    exact eq_of_nullable (fun _ _ h => (of_boundedText h).1) h

theorem of_nullable {x : α} (h : nullable read v = .ok (some x)) : read v = .ok x := by
  unfold nullable at h
  split at h
  · cases h
  · obtain ⟨_, hread, ⟨⟩⟩ := Checked.of_map h
    exact hread

theorem of_integerWithin {least most n : Int} (h : integerWithin least most v = .ok n) :
    least ≤ n ∧ n ≤ most := by
  unfold integerWithin at h
  split at h
  · cases h
  · split at h
    · cases h
    · split at h
      · cases h
      · cases h
        omega

/-- A page in display preferences holds from one to five hundred contacts. -/
theorem itemsPerPage_of_preferencesUpdate {u : PreferencesUpdate} {n : Int}
    (h : preferencesUpdate m = .ok u) (hn : u.itemsPerPage = some n) : 1 ≤ n ∧ n ≤ 500 := by
  obtain ⟨_, order, h₈, -, rfl⟩ := Checked.of_on h
  obtain ⟨_, key, h₇, -, rfl⟩ := Checked.of_on h₈
  obtain ⟨_, items, h₆, hitems, rfl⟩ := Checked.of_on h₇
  obtain ⟨_, terse, h₅, -, rfl⟩ := Checked.of_on h₆
  obtain ⟨_, notes, h₄, -, rfl⟩ := Checked.of_on h₅
  obtain ⟨_, address, h₃, -, rfl⟩ := Checked.of_on h₄
  obtain ⟨_, phone, h₂, -, rfl⟩ := Checked.of_on h₃
  obtain ⟨_, email, h₁, -, rfl⟩ := Checked.of_on h₂
  obtain ⟨_, name, h₀, -, rfl⟩ := Checked.of_on h₁
  cases h₀
  obtain rfl : items = some n := hn
  obtain hdefault | ⟨j, hj⟩ := of_defaulted hitems
  · cases hdefault
  · exact of_integerWithin (of_nullable hj)

end AddressBook.Schema
