import AddressBook.Sequence
import AddressBook.Text.Blank
import Mathlib.Data.List.Infix

/-!
Where a term can occur in a text that was put together anew. The mark that stands between the parts
is no character of the term, so the term occurs in one of the parts already.
-/
namespace AddressBook

variable {p t : Text} {mark : Char} {parts : List Text}

namespace Text

theorem occursIn_iff : p.occursIn t ↔ p <:+: t := by
  induction t with
  | nil => simp [occursIn]
  | cons c rest ih =>
    rw [occursIn, Bool.or_eq_true, ih, List.isPrefixOf_iff_prefix, List.infix_cons_iff]

section

variable (hm : mark ∉ p)
include hm

theorem eq_nil_of_prefix_mark (h : p <+: mark :: t) : p = [] := by
  cases p with
  | nil => rfl
  | cons c rest =>
    obtain ⟨rfl, -⟩ := List.cons_prefix_cons.1 h
    exact absurd (List.mem_cons_self ..) hm

theorem infix_of_infix_mark (h : p <:+: mark :: t) : p <:+: t := by
  rcases List.infix_cons_iff.1 h with h | h
  · rw [eq_nil_of_prefix_mark hm h]
    exact List.nil_infix
  · exact h

/-- A mark between two texts keeps a term from running from one into the other. -/
theorem infix_of_infix_append_mark {a b : Text} (h : p <:+: a ++ mark :: b) :
    p <:+: a ∨ p <:+: b := by
  rcases List.infix_append_iff.1 h with h | h | ⟨u, v, rfl, hu, hv⟩
  · exact .inl h
  · exact .inr (infix_of_infix_mark hm h)
  · have hv : v = [] := eq_nil_of_prefix_mark (fun hmem => hm (List.mem_append_right _ hmem)) hv
    rw [hv, List.append_nil]
    exact .inl hu.isInfix

/-! ### Joined and squeezed texts -/

theorem infix_of_infix_join (hp : p ≠ []) (h : p <:+: join [mark] parts) :
    ∃ a ∈ parts, p <:+: a := by
  induction parts with
  | nil => exact absurd (List.infix_nil.1 h) hp
  | cons a rest ih =>
    cases rest with
    | nil => exact ⟨a, List.mem_singleton_self a, by simpa [join] using h⟩
    | cons b rest =>
      rw [join, List.intercalate_cons_cons, List.append_assoc] at h
      rcases infix_of_infix_append_mark hm h with h | h
      · exact ⟨a, List.mem_cons_self .., h⟩
      · obtain ⟨x, hx, hpx⟩ := ih h
        exact ⟨x, List.mem_cons_of_mem _ hx, hpx⟩

theorem prefix_of_prefix_squeezeFrom {cut : Char → Bool}
    (h : p <+: squeezeFrom cut mark false t) : p <+: t := by
  induction t generalizing p with
  | nil => rwa [squeezeFrom] at h
  | cons c rest ih =>
    rw [squeezeFrom] at h
    split at h
    · rw [if_neg Bool.false_ne_true] at h
      rw [eq_nil_of_prefix_mark hm h]
      exact List.nil_prefix
    · cases p with
      | nil => exact List.nil_prefix
      | cons d p =>
        obtain ⟨hd, hp⟩ := List.cons_prefix_cons.1 h
        have hm : mark ∉ p := fun hmem => hm (List.mem_cons_of_mem _ hmem)
        exact List.cons_prefix_cons.2 ⟨hd, ih hm hp⟩

theorem infix_of_infix_squeezeFrom {cut : Char → Bool} {inRun : Bool}
    (h : p <:+: squeezeFrom cut mark inRun t) : p <:+: t := by
  induction t generalizing inRun with
  | nil => rwa [squeezeFrom] at h
  | cons c rest ih =>
    have hrest {run : Bool} (h : p <:+: squeezeFrom cut mark run rest) : p <:+: c :: rest :=
      (ih h).trans (List.suffix_cons c rest).isInfix
    rw [squeezeFrom] at h
    split at h
    next hcut =>
      split at h
      · exact hrest h
      · exact hrest (infix_of_infix_mark hm h)
    next hcut =>
      rcases List.infix_cons_iff.1 h with h | h
      · have hwhole : p <+: squeezeFrom cut mark false (c :: rest) := by
          rwa [squeezeFrom, if_neg hcut]
        exact (prefix_of_prefix_squeezeFrom hm hwhole).isInfix
      · exact hrest h

/-! ### Replaced terms -/

variable {old : Text} {skip : Nat}

theorem prefix_of_prefix_replaceFrom (h : p <+: replaceFrom old [mark] 0 t) : p <+: t := by
  induction t generalizing p with
  | nil => rwa [replaceFrom] at h
  | cons c rest ih =>
    rw [replaceFrom] at h
    split at h
    · rw [eq_nil_of_prefix_mark hm h]
      exact List.nil_prefix
    · cases p with
      | nil => exact List.nil_prefix
      | cons d p =>
        obtain ⟨hd, hp⟩ := List.cons_prefix_cons.1 h
        have hm : mark ∉ p := fun hmem => hm (List.mem_cons_of_mem _ hmem)
        exact List.cons_prefix_cons.2 ⟨hd, ih hm hp⟩

theorem infix_of_infix_replaceFrom (h : p <:+: replaceFrom old [mark] skip t) : p <:+: t := by
  induction t generalizing skip with
  | nil => rwa [replaceFrom] at h
  | cons c rest ih =>
    have hrest {n : Nat} (h : p <:+: replaceFrom old [mark] n rest) : p <:+: c :: rest :=
      (ih h).trans (List.suffix_cons c rest).isInfix
    cases skip with
    | succ skip => exact hrest (by rwa [replaceFrom] at h)
    | zero =>
      by_cases hold : old.isPrefixOf (c :: rest)
      · rw [replaceFrom, if_pos hold] at h
        exact hrest (infix_of_infix_mark hm h)
      · rw [replaceFrom, if_neg hold] at h
        rcases List.infix_cons_iff.1 h with h | h
        · have hwhole : p <+: replaceFrom old [mark] 0 (c :: rest) := by
            rwa [replaceFrom, if_neg hold]
          exact (prefix_of_prefix_replaceFrom hm hwhole).isInfix
        · exact hrest h

end

/-- A term that was replaced does not occur any more. -/
theorem not_infix_replaceFrom {old : Text} (hm : mark ∉ old) (hold : old ≠ []) (skip : Nat)
    (t : Text) : ¬ old <:+: replaceFrom old [mark] skip t := by
  intro h
  induction t generalizing skip with
  | nil =>
    rw [replaceFrom] at h
    exact hold (List.infix_nil.1 h)
  | cons c rest ih =>
    cases skip with
    | succ skip =>
      rw [replaceFrom] at h
      exact ih skip h
    | zero =>
      by_cases hpre : old.isPrefixOf (c :: rest)
      · rw [replaceFrom, if_pos hpre] at h
        exact ih _ (infix_of_infix_mark hm h)
      · rw [replaceFrom, if_neg hpre] at h
        rcases List.infix_cons_iff.1 h with h | h
        · -- up to the next mark, nothing was replaced
          have hwhole : old <+: replaceFrom old [mark] 0 (c :: rest) := by
            rwa [replaceFrom, if_neg hpre]
          exact hpre (List.isPrefixOf_iff_prefix.2 (prefix_of_prefix_replaceFrom hm hwhole))
        · exact ih 0 h

/-- Where a term does not occur, nothing is replaced. -/
theorem replace_eq_self {new : Text} (h : ¬ old <:+: t) : replace old new t = t := by
  unfold replace
  induction t with
  | nil => rw [replaceFrom]
  | cons c rest ih =>
    have hpre : ¬ old.isPrefixOf (c :: rest) = true :=
      fun hpre => h (List.isPrefixOf_iff_prefix.1 hpre).isInfix
    have hrest : ¬ old <:+: rest := fun hin => h (hin.trans (List.suffix_cons c rest).isInfix)
    rw [replaceFrom, if_neg hpre, ih hrest]

/-! ### Pieces -/

theorem pieces_parts (cut : Char → Bool) (t : Text) :
    (∀ a ∈ (pieces cut t).head?, a <+: t) ∧ ∀ a ∈ pieces cut t, a <:+: t := by
  induction t with
  | nil => simp [pieces]
  | cons c rest ih =>
    obtain ⟨hhead, hall⟩ := ih
    have hrest {a : Text} (ha : a <:+: rest) : a <:+: c :: rest :=
      ha.trans (List.suffix_cons c rest).isInfix
    rw [pieces]
    split
    · refine ⟨by simp, List.forall_mem_cons.2 ⟨ List.nil_infix, fun a ha => hrest (hall a ha)⟩⟩
    · cases hpieces : pieces cut rest with
      | nil =>
        have hone : [c] <+: c :: rest := List.cons_prefix_cons.2 ⟨rfl, List.nil_prefix⟩
        exact ⟨by simp [hone], by simp [hone.isInfix]⟩
      | cons piece others =>
        have hpiece : c :: piece <+: c :: rest :=
          List.cons_prefix_cons.2 ⟨rfl, hhead piece (by simp [hpieces])⟩
        refine ⟨by simp [hpiece], List.forall_mem_cons.2 ⟨hpiece.isInfix, fun a ha => ?_⟩⟩
        exact hrest (hall a (hpieces ▸ List.mem_cons_of_mem _ ha))

theorem infix_of_mem_pieces {cut : Char → Bool} {a : Text} (h : a ∈ pieces cut t) : a <:+: t :=
  (pieces_parts cut t).2 a h

end Text
end AddressBook
