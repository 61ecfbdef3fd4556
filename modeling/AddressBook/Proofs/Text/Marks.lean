import AddressBook.Text.Basic
import Mathlib.Data.List.Infix

/-!
What stands behind the places of a text at which a mark stands. A text can be silent for a mark: no
mark starts in it, whatever follows it.
-/
namespace AddressBook.Text

/-- What stands behind each place at which a mark stands, from left to right. -/
def behind (mark : Text) : Text → List Text
  | [] => []
  | c :: rest =>
    if mark.isPrefixOf (c :: rest) then (c :: rest).drop mark.length :: behind mark rest
    else behind mark rest

/-- The text up to a character. -/
def upTo (stop : Char) (t : Text) : Text := t.takeWhile (· != stop)

/-- No mark starts in a text, whatever follows it. -/
def Silent (mark t : Text) : Prop := ∀ rest, behind mark (t ++ rest) = behind mark rest

/-- Whether nothing in a text is a mark or the beginning of one. -/
def isQuiet (mark : Text) : Text → Bool
  | [] => true
  | c :: rest =>
    !mark.isPrefixOf (c :: rest) && !(c :: rest).isPrefixOf mark && isQuiet mark rest

variable {mark t u : Text}

theorem silent_nil : Silent mark [] := fun _ => rfl

theorem Silent.append (ht : Silent mark t) (hu : Silent mark u) : Silent mark (t ++ u) := by
  intro rest
  rw [List.append_assoc, ht, hu]

theorem silent_of_isQuiet (h : isQuiet mark t = true) : Silent mark t := by
  induction t with
  | nil => exact silent_nil
  | cons c t ih =>
    intro rest
    simp only [isQuiet, Bool.and_eq_true, Bool.not_eq_true'] at h
    obtain ⟨⟨hmark, hstart⟩, hquiet⟩ := h
    have hnot : mark.isPrefixOf (c :: (t ++ rest)) = false := by
      apply Bool.eq_false_iff.2
      intro hprefix
      rcases List.prefix_or_prefix_of_prefix (List.isPrefixOf_iff_prefix.1 hprefix)
        (List.prefix_append (c :: t) rest) with h | h
      · exact Bool.eq_false_iff.1 hmark (List.isPrefixOf_iff_prefix.2 h)
      · exact Bool.eq_false_iff.1 hstart (List.isPrefixOf_iff_prefix.2 h)
    rw [List.cons_append, behind, hnot]
    exact ih hquiet rest

/-- A text without the first character of a mark is silent. -/
theorem silent_of_notMem {m : Char} (hm : mark.head? = some m) (h : m ∉ t) : Silent mark t := by
  obtain ⟨ms, rfl⟩ := List.head?_eq_some_iff.1 hm
  induction t with
  | nil => exact silent_nil
  | cons c t ih =>
    intro rest
    rw [List.mem_cons, not_or] at h
    have hnot : (m :: ms).isPrefixOf (c :: (t ++ rest)) = false := by
      rw [List.isPrefixOf_cons_cons, beq_eq_false_iff_ne.2 h.1, Bool.false_and]
    rw [List.cons_append, behind, hnot]
    exact ih h.2 rest

theorem behind_mark (h : mark ≠ []) (t : Text) :
    behind mark (mark ++ t) = t :: behind mark (mark.tail ++ t) := by
  obtain ⟨m, ms, rfl⟩ := List.exists_cons_of_ne_nil h
  have hmark : (m :: ms).isPrefixOf (m :: (ms ++ t)) = true :=
    List.isPrefixOf_iff_prefix.2 (List.prefix_append (m :: ms) t)
  have hdrop : (m :: (ms ++ t)).drop (m :: ms).length = t := List.drop_left
  rw [List.cons_append, behind, hmark, hdrop]
  rfl

theorem upTo_append {stop : Char} (h : stop ∉ t) (u : Text) : upTo stop (t ++ stop :: u) = t := by
  have hall : ∀ c ∈ t, (c != stop) = true := fun c hc => bne_iff_ne.2 fun he => h (he ▸ hc)
  rw [upTo, List.takeWhile_append_of_pos hall, List.takeWhile_cons, bne_self_eq_false,
    if_neg Bool.false_ne_true, List.append_nil]

end AddressBook.Text
