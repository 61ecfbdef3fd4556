import AddressBook.Proofs.Cleanup.Normal
import AddressBook.Proofs.Text.Runs

/-!
Normal forms as canonical forms: a name is brought down to its words, a telephone number to its
digits and signs between the blanks it had, and neither loses or moves any of these.
-/
namespace AddressBook.Cleanup

open Text

variable {t : Text} {c : Char} {p : Char → Bool}

/-- A decimal digit of some script, or a sign that telephone numbers have. -/
def isDigitOrSign (c : Char) : Bool :=
  isDigit c || c == '+' || c == '-' || c == '(' || c == ')'

theorem isPhoneChar_eq (c : Char) : isPhoneChar c = (isDigitOrSign c || isBlank c) := rfl

theorem not_isDigitOrSign_of_isBlank (h : isBlank c) : isDigitOrSign c = false := by
  have hall : ∀ n ∈ [0x09, 0x0A, 0x0B, 0x0C, 0x0D, 0x1C, 0x1D, 0x1E, 0x1F, 0x20, 0x85, 0xA0, 0x1680,
      0x2000, 0x2001, 0x2002, 0x2003, 0x2004, 0x2005, 0x2006, 0x2007, 0x2008, 0x2009, 0x200A,
      0x2028, 0x2029, 0x202F, 0x205F, 0x3000], isDigitOrSign (Char.ofNat n) = false := by
    decide
  rw [← Char.ofNat_toNat c]
  apply hall
  simp only [isBlank, Bool.or_eq_true, Bool.and_eq_true, decide_eq_true_eq, beq_iff_eq] at h
  simp only [List.mem_cons, List.not_mem_nil, or_false]
  omega

/-- A name in normal form is its words with single spaces between them. -/
theorem name_eq_join (t : Text) : name t = join [' '] (words t) := by
  have hblank : ∀ c, isBlank c → isBlank c := fun _ => id
  rw [name, trim_squeeze hblank (by decide), (trimmed_trim t).squeeze_eq_join hblank,
    ← words_eq_runs, words_trim]

/-- Bringing a name into normal form keeps all that is no blank, in its order. -/
theorem filter_name (h : ∀ c, isBlank c → p c = false) (t : Text) :
    (name t).filter p = t.filter p := by
  have hkept : ∀ c ∈ t, (p c && !isBlank c) = p c := by
    intro c _
    cases hc : isBlank c with
    | false => rw [Bool.not_false, Bool.and_true]
    | true => rw [h c hc, Bool.false_and]
  rw [name_eq_join, filter_join (h ' ' (by decide)), words_eq_runs, flatten_runs, List.filter_filter]
  exact List.filter_congr hkept

/-- A telephone number in normal form has the digits and signs that it had. -/
theorem filter_phone (t : Text) : (phone t).filter isDigitOrSign = t.filter isDigitOrSign := by
  rw [phone, filter_name fun _ => not_isDigitOrSign_of_isBlank, List.filter_filter]
  apply List.filter_congr
  intro c _
  rw [isPhoneChar_eq]
  cases isDigitOrSign c <;> simp

/-- An e-mail address in normal form is in lower case. -/
theorem lower_email (t : Text) : lower (email t) = email t :=
  lower_of_small fun _ hc => small_of_mem_lower ((trim_part _).mem hc)

/-- The normal form of a name is its words with single spaces between them; that of a telephone
number is the same of its digits, signs and blanks, and has its digits and signs in their order.
These normal forms, and that of an e-mail address, which is in lower case, are their own. -/
theorem canonical_forms (t : Text) :
    name t = join [' '] (words t) ∧
    phone t = join [' '] (words (t.filter fun c => isDigitOrSign c || isBlank c)) ∧
    (phone t).filter isDigitOrSign = t.filter isDigitOrSign ∧
    name (name t) = name t ∧ phone (phone t) = phone t ∧
    lower (email t) = email t ∧ email (email t) = email t := by
  refine ⟨name_eq_join t, ?_, filter_phone t, name_name t, phone_phone t, lower_email t,
    email_email t⟩
  rw [phone, name_eq_join]
  rfl

end AddressBook.Cleanup
