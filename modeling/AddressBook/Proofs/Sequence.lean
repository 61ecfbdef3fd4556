import AddressBook.Sequence

/-!
Sorting keeps all entries, and puts them in order, whatever others are sorted with them. Leaving out
repetitions keeps all entries too, each at its first place.
-/
namespace AddressBook

variable {α : Type} {before : α → α → Bool}

theorem insertSorted_perm (before : α → α → Bool) (x : α) (xs : List α) :
    (insertSorted before x xs).Perm (x :: xs) := by
  induction xs with
  | nil => exact .refl _
  | cons y rest ih =>
    unfold insertSorted
    split
    · exact .refl _
    · exact (ih.cons y).trans (.swap x y rest)

theorem sortList_perm (before : α → α → Bool) (xs : List α) : (sortList before xs).Perm xs := by
  induction xs with
  | nil => exact .refl _
  | cons x rest ih => exact (insertSorted_perm before x _).trans (ih.cons x)

theorem mem_sortList {x : α} {xs : List α} : x ∈ sortList before xs ↔ x ∈ xs :=
  (sortList_perm before xs).mem_iff

/-- An entry that is put in its place stays before those that may stand on either side of it. -/
theorem insertSorted_stable {P : α → α → Prop} (total : ∀ a b, before a b = false → before b a)
    (trans : ∀ a b c, before a b → before b c → before a c) {x : α} {xs : List α}
    (hx : ∀ y ∈ xs, P x y) (h : xs.Pairwise fun a b => before a b ∧ (before b a → P a b)) :
    (insertSorted before x xs).Pairwise fun a b => before a b ∧ (before b a → P a b) := by
  induction xs with
  | nil => exact List.pairwise_singleton _ _
  | cons y rest ih =>
    obtain ⟨hy, hrest⟩ := List.pairwise_cons.1 h
    unfold insertSorted
    cases hxy : before x y with
    | true =>
      rw [if_pos rfl]
      refine List.pairwise_cons.2 ⟨fun z hz => ⟨?_, fun _ => hx z hz⟩, h⟩
      cases hz with
      | head => exact hxy
      | tail _ hz => exact trans x y z hxy (hy z hz).1
    | false =>
      rw [if_neg (by simp)]
      refine List.pairwise_cons.2 ⟨?_, ih (fun z hz => hx z (List.mem_cons_of_mem _ hz)) hrest⟩
      intro z hz
      rcases List.mem_cons.1 ((insertSorted_perm before x rest).mem_iff.1 hz) with rfl | hz
      · exact ⟨total z y hxy, fun hzy => absurd hzy (by simp [hxy])⟩
      · exact hy z hz

/-- Sorting puts entries in order, and those that may stand in either order keep theirs. -/
theorem sortList_stable {P : α → α → Prop} (total : ∀ a b, before a b = false → before b a)
    (trans : ∀ a b c, before a b → before b c → before a c) {xs : List α} (h : xs.Pairwise P) :
    (sortList before xs).Pairwise fun a b => before a b ∧ (before b a → P a b) := by
  induction xs with
  | nil => exact List.Pairwise.nil
  | cons x rest ih =>
    obtain ⟨hx, hrest⟩ := List.pairwise_cons.1 h
    exact insertSorted_stable total trans (fun y hy => hx y (mem_sortList.1 hy)) (ih hrest)

theorem sortList_pairwise (total : ∀ a b, before a b = false → before b a)
    (trans : ∀ a b c, before a b → before b c → before a c) (xs : List α) :
    (sortList before xs).Pairwise fun a b => before a b :=
  (sortList_stable total trans (List.pairwise_of_forall (R := fun _ _ => True)
    fun _ _ => trivial)).imp And.left

theorem insertSorted_of_forall {x : α} {xs : List α} (h : ∀ y ∈ xs, before x y) :
    insertSorted before x xs = x :: xs := by
  cases xs with
  | nil => rfl
  | cons y rest => exact if_pos (h y (List.mem_cons_self ..))

theorem filter_insertSorted (trans : ∀ a b c, before a b → before b c → before a c) (p : α → Bool)
    (x : α) {xs : List α} (h : xs.Pairwise fun a b => before a b) :
    (insertSorted before x xs).filter p =
      if p x then insertSorted before x (xs.filter p) else xs.filter p := by
  induction xs with
  | nil => rw [insertSorted, List.filter_cons, List.filter_nil, insertSorted]
  | cons y rest ih =>
    obtain ⟨hy, hrest⟩ := List.pairwise_cons.1 h
    rw [insertSorted]
    cases hxy : before x y with
    | true =>
      have hall : ∀ z ∈ (y :: rest).filter p, before x z := by
        intro z hz
        rcases List.mem_cons.1 (List.mem_filter.1 hz).1 with rfl | hz
        · exact hxy
        · exact trans x y z hxy (hy z hz)
      rw [if_pos rfl, List.filter_cons, insertSorted_of_forall hall]
    | false =>
      rw [if_neg (by simp), List.filter_cons, ih hrest, List.filter_cons]
      cases p y with
      | true => cases p x <;> simp [insertSorted, hxy]
      | false => rfl

/-- Entries that are picked out of a list come in the same order as on their own. -/
theorem filter_sortList (total : ∀ a b, before a b = false → before b a)
    (trans : ∀ a b c, before a b → before b c → before a c) (p : α → Bool) (xs : List α) :
    (sortList before xs).filter p = sortList before (xs.filter p) := by
  induction xs with
  | nil => rfl
  | cons x rest ih =>
    have hx := filter_insertSorted trans p x (sortList_pairwise total trans rest)
    rw [ih] at hx
    refine hx.trans ?_
    rw [List.filter_cons]
    cases p x <;> rfl

/-- A last entry that no other may precede comes first. -/
theorem sortList_concat {xs : List α} {y : α} (h : ∀ x ∈ xs, before x y = false) :
    sortList before (xs ++ [y]) = y :: sortList before xs := by
  induction xs with
  | nil => rfl
  | cons x rest ih =>
    show insertSorted before x (sortList before (rest ++ [y])) = _
    rw [ih fun z hz => h z (List.mem_cons_of_mem _ hz)]
    exact if_neg (by simp [h x (List.mem_cons_self ..)])

theorem insertSorted_map {g : α → α} (hg : ∀ a b, before (g a) (g b) = before a b) (x : α)
    (xs : List α) : insertSorted before (g x) (xs.map g) = (insertSorted before x xs).map g := by
  induction xs with
  | nil => rfl
  | cons y rest ih =>
    rw [List.map_cons, insertSorted, insertSorted, hg, ih]
    split <;> rfl

theorem sortList_map {g : α → α} (hg : ∀ a b, before (g a) (g b) = before a b) (xs : List α) :
    sortList before (xs.map g) = (sortList before xs).map g := by
  induction xs with
  | nil => rfl
  | cons x rest ih =>
    change insertSorted before (g x) (sortList before (rest.map g)) = _
    rw [ih, insertSorted_map hg]
    rfl

theorem mem_distinct [BEq α] [LawfulBEq α] {x : α} {xs : List α} : x ∈ distinct xs ↔ x ∈ xs := by
  induction xs with
  | nil => rfl
  | cons y rest ih =>
    rw [distinct, List.mem_cons, List.mem_cons, List.mem_filter, ih, bne_iff_ne]
    by_cases hx : x = y <;> simp [hx]

theorem nodup_distinct [BEq α] [LawfulBEq α] (xs : List α) : (distinct xs).Nodup := by
  induction xs with
  | nil => exact List.nodup_nil
  | cons y rest ih =>
    refine List.nodup_cons.2 ⟨?_, ih.filter _⟩
    simp

theorem distinct_sublist [BEq α] (xs : List α) : (distinct xs).Sublist xs := by
  induction xs with
  | nil => exact .slnil
  | cons x rest ih => exact (List.filter_sublist.trans ih).cons_cons x

theorem distinct_of_nodup [BEq α] [LawfulBEq α] {xs : List α} (h : xs.Nodup) :
    distinct xs = xs := by
  induction xs with
  | nil => rfl
  | cons x rest ih =>
    obtain ⟨hx, hrest⟩ := List.nodup_cons.1 h
    rw [distinct, ih hrest, List.filter_eq_self.2]
    intro y hy
    exact bne_iff_ne.2 fun he => hx (he ▸ hy)

/-- The entries of a list that do not stand in front of their place already. -/
def firsts [BEq α] (xs : List α) : List α :=
  (xs.zipIdx.filter fun (x, i) => !(xs.take i).contains x).map Prod.fst

/-- Of each entry the first place is kept. -/
theorem distinct_eq_firsts [BEq α] (xs : List α) : distinct xs = firsts xs := by
  induction xs with
  | nil => rfl
  | cons x rest ih =>
    have hnew (entry : α × Nat) : (!((x :: rest).take (entry.2 + 1)).contains entry.1) =
        (entry.1 != x && !(rest.take entry.2).contains entry.1) := by
      rw [List.take_succ_cons, List.contains_cons, Bool.not_or]
      rfl
    rw [distinct, ih, firsts, firsts, List.filter_map, List.filter_filter, List.zipIdx_cons,
      List.filter_cons_of_pos (by simp), List.map_cons, List.zipIdx_succ, List.filter_map,
      List.map_map]
    congr 2
    apply List.filter_congr
    intro entry _
    exact (hnew entry).symm

end AddressBook
