import AddressBook.Cleanup.Normal
import AddressBook.Proofs.Sequence
import AddressBook.Proofs.Text.Blank
import AddressBook.Proofs.Text.Case
import AddressBook.Proofs.Text.Occurrence

/-! Normal forms of normal forms. -/
namespace AddressBook.Cleanup

open Text

variable {t : Text}

theorem name_name (t : Text) : name (name t) = name t := by
  have hs : Squeezed isBlank ' ' (name t) := (squeezed_squeeze t).part (trim_part _)
  unfold name at hs ⊢
  rw [hs.squeeze_eq, trim_trim]

/-- Bringing a name into normal form adds no character but spaces. -/
theorem mem_of_name {c : Char} (h : c ∈ name t) : c = ' ' ∨ c ∈ t :=
  mem_of_squeezeFrom ((trim_part _).mem h)

/-- Nothing is left of a name in normal form exactly if it holds nothing but blanks. -/
theorem name_eq_nil_iff : name t = [] ↔ ∀ c ∈ t, isBlank c := by
  rw [name, trim_eq_nil_iff]
  constructor
  · intro h c hc
    by_contra hnot
    exact hnot (h c (mem_squeezeFrom hc (by simpa using hnot)))
  · intro h c hc
    rcases mem_of_squeezeFrom hc with rfl | hc
    · decide
    · exact h c hc

theorem phone_phone (t : Text) : phone (phone t) = phone t := by
  have hchars : ∀ c ∈ phone t, isPhoneChar c := by
    intro c hc
    rcases mem_of_name hc with rfl | hc
    · decide
    · exact (List.mem_filter.1 hc).2
  rw [phone, List.filter_eq_self.2 hchars]
  exact name_name _

theorem email_email (t : Text) : email (email t) = email t := by
  have hsmall : ∀ c ∈ email t, Small c := fun c hc => small_of_mem_lower ((trim_part _).mem hc)
  rw [email, lower_of_small hsmall]
  exact trim_trim _

/-- What occurs in a cleaned address occurs in it when its line breaks are real. -/
theorem infix_of_infix_address {p : Text} (hm : '\n' ∉ p) (hp : p ≠ []) (h : p <:+: address t) :
    p <:+: replace lineMark ['\n'] (replace lineEscape ['\n'] t) := by
  obtain ⟨line, hline, h⟩ := infix_of_infix_join hm hp h
  have htight := h.trans (infix_of_mem_pieces (mem_distinct.1 hline))
  exact infix_of_infix_squeezeFrom hm (htight.trans (trim_part _))

/-- The mark between lines does not occur in a cleaned address. -/
theorem not_lineMark_infix_address (t : Text) : ¬ lineMark <:+: address t := by
  have hm : '\n' ∉ lineMark := by decide
  have hne : lineMark ≠ [] := by decide
  exact fun h => not_infix_replaceFrom hm hne 0 _ (infix_of_infix_address hm hne h)

/-- The escape for a line break does not occur in a cleaned address. -/
theorem not_lineEscape_infix_address (t : Text) : ¬ lineEscape <:+: address t := by
  have hm : '\n' ∉ lineEscape := by decide
  have hne : lineEscape ≠ [] := by decide
  intro h
  have hbroken := infix_of_infix_address hm hne h
  exact not_infix_replaceFrom hm hne 0 t (infix_of_infix_replaceFrom hm hbroken)

theorem not_occursIn_address (t : Text) : lineEscape.occursIn (address t) = false := by
  rw [← Bool.not_eq_true, occursIn_iff]
  exact not_lineEscape_infix_address t

end AddressBook.Cleanup
