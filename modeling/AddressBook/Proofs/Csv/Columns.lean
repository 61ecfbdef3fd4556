import AddressBook.Csv.Contacts

/-!
The columns of a document. Of several headers for a field the last one counts, and of several
columns under one header too.
-/
namespace AddressBook.Csv

open Text

/-- A header spells a field, outer blanks and letter case aside. -/
def Spells (header : Text) (f : Field) : Prop := lower (trim header) = f.label

/-- The place of the last entry with a property. -/
structure LastAt (P : Text → Prop) (xs : List Text) (i : Nat) : Prop where
  holds : ∃ x, xs[i]? = some x ∧ P x
  last : ∀ j x, i < j → xs[j]? = some x → ¬ P x

/-- The column of a field is the last one under the very header that is the last to spell the
field. -/
def Fills (headers : List Text) (f : Field) (i : Nat) : Prop :=
  ∃ k header, LastAt (Spells · f) headers k ∧ headers[k]? = some header ∧
    LastAt (· = header) headers i

variable {P : Text → Prop} {p : Text → Bool} {x header : Text} {xs headers : List Text} {i j : Nat}
  {f : Field}

/-! ### The last entry -/

theorem not_lastAt_nil : ¬ LastAt P [] i := fun h => by
  obtain ⟨x, hx, -⟩ := h.holds
  cases hx

theorem lastAt_succ : LastAt P (x :: xs) (i + 1) ↔ LastAt P xs i := by
  constructor
  · intro h
    exact ⟨h.holds, fun j y hij hy => h.last (j + 1) y (by omega) hy⟩
  · intro h
    refine ⟨h.holds, fun j y hij hy => ?_⟩
    obtain ⟨j, rfl⟩ := Nat.exists_eq_add_one_of_ne_zero (Nat.ne_zero_of_lt hij)
    exact h.last j y (by omega) hy

theorem lastAt_zero : LastAt P (x :: xs) 0 ↔ P x ∧ ∀ y ∈ xs, ¬ P y := by
  constructor
  · intro h
    obtain ⟨y, hy, hp⟩ := h.holds
    cases hy
    refine ⟨hp, fun z hz => ?_⟩
    obtain ⟨j, hj⟩ := List.mem_iff_getElem?.1 hz
    exact h.last (j + 1) z (by omega) hj
  · rintro ⟨hx, hrest⟩
    refine ⟨⟨x, rfl, hx⟩, fun j y hj hy => ?_⟩
    obtain ⟨j, rfl⟩ := Nat.exists_eq_add_one_of_ne_zero (Nat.ne_zero_of_lt hj)
    exact hrest y (List.mem_of_getElem? hy)

theorem LastAt.unique (h : LastAt P xs i) (h' : LastAt P xs j) : i = j := by
  obtain ⟨x, hx, hp⟩ := h.holds
  obtain ⟨y, hy, hq⟩ := h'.holds
  have hle : ¬ j < i := fun hlt => h'.last i x hlt hx hp
  have hge : ¬ i < j := fun hlt => h.last j y hlt hy hq
  omega

theorem lastPlace_eq_none_iff : lastPlace p xs = none ↔ ∀ x ∈ xs, ¬ p x := by
  induction xs with
  | nil => simp [lastPlace]
  | cons x rest ih =>
    rw [lastPlace, List.forall_mem_cons, ← ih]
    cases lastPlace p rest <;> simp

theorem lastPlace_eq_some_iff : lastPlace p xs = some i ↔ LastAt (fun x => p x) xs i := by
  induction xs generalizing i with
  | nil => simp [lastPlace, not_lastAt_nil]
  | cons x rest ih =>
    rw [lastPlace]
    cases hrest : lastPlace p rest with
    | some k =>
      have hk : LastAt (fun x => p x) rest k := ih.1 hrest
      cases i with
      | zero =>
        obtain ⟨y, hy, hp⟩ := hk.holds
        have hnot : ¬ LastAt (fun x => p x) (x :: rest) 0 := fun h =>
          (lastAt_zero.1 h).2 y (List.mem_of_getElem? hy) hp
        simp [hnot]
      | succ i =>
        rw [lastAt_succ, ← ih, hrest]
        simp
    | none =>
      have hnone := lastPlace_eq_none_iff.1 hrest
      cases i with
      | zero =>
        rw [lastAt_zero]
        by_cases hx : p x <;> simp_all
      | succ i =>
        rw [lastAt_succ, ← ih, hrest]
        by_cases hx : p x <;> simp [hx]

/-- What is found first from the end stands at the last place. -/
theorem find?_reverse (p : Text → Bool) (xs : List Text) :
    xs.reverse.find? p = (lastPlace p xs).bind fun i => xs[i]? := by
  induction xs with
  | nil => rfl
  | cons x rest ih =>
    rw [List.reverse_cons, List.find?_append, ih, lastPlace]
    cases hrest : lastPlace p rest with
    | some k =>
      obtain ⟨y, hy, -⟩ := (lastPlace_eq_some_iff.1 hrest).holds
      simp [hy]
    | none => by_cases hx : p x <;> simp [hx]

/-! ### Columns -/

theorem mem_fields (f : Field) : f ∈ Field.all := by cases f <;> decide

theorem headerField?_eq_some_iff : headerField? header = some f ↔ Spells header f := by
  unfold headerField? Field.ofLabel? Spells
  constructor
  · intro h
    have hlabel := List.find?_some h
    exact (eq_of_beq hlabel).symm
  · intro h
    rw [h]
    cases f <;> decide

theorem column?_eq_some_iff : column? headers f = some i ↔ Fills headers f i := by
  have hspells : (fun header => (headerField? header == some f) = true) = (Spells · f) := by
    funext header
    rw [beq_iff_eq, headerField?_eq_some_iff]
  have hsame (header : Text) : (fun x => (x == header) = true) = (· = header) := by
    funext x
    rw [beq_iff_eq]
  unfold column? Fills
  rw [find?_reverse]
  cases hplace : lastPlace (fun header => headerField? header == some f) headers with
  | none =>
    constructor
    · nofun
    · rintro ⟨k, header, hk, -⟩
      rw [← hspells, ← lastPlace_eq_some_iff, hplace] at hk
      cases hk
  | some k =>
    have hk := lastPlace_eq_some_iff.1 hplace
    rw [hspells] at hk
    obtain ⟨header, hheader, -⟩ := hk.holds
    rw [Option.bind_some, hheader]
    dsimp only
    rw [lastPlace_eq_some_iff, hsame]
    constructor
    · exact fun h => ⟨k, header, hk, hheader, h⟩
    · rintro ⟨k', header', hk', hheader', h⟩
      obtain rfl := hk.unique hk'
      rw [hheader] at hheader'
      cases hheader'
      exact h

/-- The column of a field has a header that spells the field. -/
theorem Fills.spelled (h : Fills headers f i) :
    ∃ header, headers[i]? = some header ∧ Spells header f := by
  obtain ⟨k, header, hk, hheader, hi⟩ := h
  obtain ⟨other, hother, hspells⟩ := hk.holds
  obtain ⟨same, hsame, rfl⟩ := hi.holds
  rw [hheader] at hother
  cases hother
  exact ⟨_, hsame, hspells⟩

/-- A field has a column exactly if a header spells it. -/
theorem column?_eq_none_iff : column? headers f = none ↔ ∀ header ∈ headers, ¬ Spells header f := by
  constructor
  · intro hnone header hheader hspells
    unfold column? at hnone
    cases hfind : headers.reverse.find? fun header => headerField? header == some f with
    | none =>
      have hnot := List.find?_eq_none.1 hfind header (List.mem_reverse.2 hheader)
      exact hnot (beq_iff_eq.2 (headerField?_eq_some_iff.2 hspells))
    | some last =>
      rw [hfind] at hnone
      have hlast := List.mem_reverse.1 (List.mem_of_find?_eq_some hfind)
      exact lastPlace_eq_none_iff.1 hnone last hlast (beq_self_eq_true last)
  · intro hnot
    apply Option.eq_none_iff_forall_ne_some.2
    intro i hi
    obtain ⟨header, hheader, hspells⟩ := (column?_eq_some_iff.1 hi).spelled
    exact hnot header (List.mem_of_getElem? hheader) hspells

end AddressBook.Csv
