import AddressBook.Proofs.Text.Occurrence
import AddressBook.Search.Dialect
import Mathlib.Data.List.TakeWhile

/-! An escaped term stands for itself in a pattern, whatever wildcards it has in it. -/
namespace AddressBook.Search.Like

theorem accepts_run (s : Text) : accepts ['%'] s = true := by
  induction s with
  | nil => rfl
  | cons x rest ih => simp_all [accepts, suffixes]

theorem accepts_escaped (c : Char) (p s : Text) :
    accepts ('/' :: c :: p) s = match s with
      | [] => false
      | x :: rest => c == x && accepts p rest := by
  cases s <;> simp [accepts]

theorem accepts_literal {c : Char} (hc : c ≠ '%' ∧ c ≠ '_' ∧ c ≠ '/') (p s : Text) :
    accepts (c :: p) s = match s with
      | [] => false
      | x :: rest => c == x && accepts p rest := by
  cases s <;> simp [accepts, hc]

theorem escape_cons (c : Char) (t : Text) : escape (c :: t) =
    (if c == '/' || c == '%' || c == '_' then ['/', c] else [c]) ++ escape t := rfl

/-- A pattern that starts with an escaped term and ends in a wildcard. -/
theorem accepts_escape (t s : Text) : accepts (escape t ++ ['%']) s = t.isPrefixOf s := by
  induction t generalizing s with
  | nil =>
    rw [List.isPrefixOf_nil_left]
    exact accepts_run s
  | cons c t ih =>
    rw [escape_cons]
    split
    case isTrue =>
      change accepts ('/' :: c :: (escape t ++ ['%'])) s = _
      rw [accepts_escaped]
      cases s with
      | nil => rfl
      | cons x rest => simp only [ih, List.isPrefixOf_cons_cons]
    case isFalse hc =>
      change accepts (c :: (escape t ++ ['%'])) s = _
      rw [accepts_literal (by simp_all)]
      cases s with
      | nil => rfl
      | cons x rest => simp only [ih, List.isPrefixOf_cons_cons]

theorem any_suffixes (t s : Text) : (suffixes s).any t.isPrefixOf = t.occursIn s := by
  induction s with
  | nil => cases t <;> rfl
  | cons x rest ih => rw [suffixes, List.any_cons, ih, Text.occursIn]

/-- A text contains an escaped term if the term occurs in it. -/
theorem contains_escape (t s : Text) : contains (escape t) s = t.occursIn s := by
  have haround : contains (escape t) s = (suffixes s).any (accepts (escape t ++ ['%'])) := by
    simp [contains, around, accepts]
  have hprefix : accepts (escape t ++ ['%']) = t.isPrefixOf := funext (accepts_escape t)
  rw [haround, hprefix, any_suffixes]

/-- The text that a pattern without wildcards stands for: `/` takes the next character literally. -/
def unescape : Text → Text
  | '/' :: c :: rest => c :: unescape rest
  | c :: rest => c :: unescape rest
  | [] => []

theorem unescape_cons {c : Char} (hc : c ≠ '/') (t : Text) :
    unescape (c :: t) = c :: unescape t := by
  rw [unescape]
  intro _ _ h
  exact absurd h hc

theorem unescape_escape (t : Text) : unescape (escape t) = t := by
  induction t with
  | nil => rfl
  | cons c t ih =>
    rw [escape_cons]
    split
    case isTrue => exact congrArg (c :: ·) ih
    case isFalse hc =>
      have hslash : c ≠ '/' := by simp_all
      exact (unescape_cons hslash _).trans (congrArg (c :: ·) ih)

theorem zero_notMem_escape {t : Text} (h : '\x00' ∉ t) : '\x00' ∉ escape t := by
  intro hmem
  obtain ⟨c, hc, hmem⟩ := List.mem_flatMap.1 hmem
  have hne : '\x00' ≠ c := fun he => h (he ▸ hc)
  split at hmem <;> simp [hne] at hmem

end AddressBook.Search.Like

namespace AddressBook.Search.Dialect

/-- A store finds a term only in texts in which it occurs. -/
def Discerns (d : Dialect) : Prop :=
  ∀ term t, '\x00' ∉ term → d.finds (Like.escape term) t → term.occursIn t

theorem discerns_plain : plain.Discerns := by
  intro term t _ h
  rwa [← Like.contains_escape]

theorem compared_of_notMem {t : Text} (h : '\x00' ∉ t) : compared t = t :=
  List.takeWhile_eq_self_iff.2 fun _ hc => bne_iff_ne.2 fun he => h (he ▸ hc)

/-- Texts that are compared up to a zero character are looked through up to it. -/
theorem bounded_finds {term : Text} (h : '\x00' ∉ term) (t : Text) :
    bounded.finds (Like.escape term) t = term.occursIn (compared t) := by
  have hzero : '\x00' ∉ Like.around (Like.escape term) := by
    simp [Like.around, Like.zero_notMem_escape h]
  rw [← Like.contains_escape, Like.contains, ← compared_of_notMem hzero]
  rfl

/-- Texts that are compared up to a zero character contain no term that does not occur in them. -/
theorem discerns_bounded : bounded.Discerns := by
  intro term t hzero h
  rw [bounded_finds hzero, Text.occursIn_iff] at h
  exact Text.occursIn_iff.2 (h.trans ( List.takeWhile_prefix _).isInfix)

end AddressBook.Search.Dialect
