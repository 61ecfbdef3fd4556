import AddressBook.Text.Blank
import AddressBook.Text.Case

/-!
Texts that differ only in the case of ASCII letters. A letter of ASCII carries case and is no blank
in either form, so that such texts have the same lower-case form, whatever stands between their
letters, and are blank at the same places.
-/
namespace AddressBook.Text

open CaseTable

/-- A text with its ASCII letters in small, and all else as it is. -/
def asciiLower (t : Text) : Text := t.map Char.toLower

/-- Whether two texts differ in nothing but the case of ASCII letters. -/
def SameLetters (s t : Text) : Prop := asciiLower s = asciiLower t

variable {s t : Text} {c : Char}

instance : Decidable (SameLetters s t) := inferInstanceAs (Decidable (_ = _))

/-! ### Characters -/

theorem toLower_of_not_capital (h : ¬ (0x41 ≤ c.toNat ∧ c.toNat ≤ 0x5A)) : c.toLower = c := by
  unfold Char.toLower
  rw [dif_neg]
  simp only [ge_iff_le, UInt32.le_iff_toNat_le]
  exact h

/-- What is the same for an ASCII letter in either case is the same for every character. -/
theorem toLower_invariant {α : Type} {f : Char → α}
    (h : ∀ n < 26, f (Char.ofNat (0x61 + n)) = f (Char.ofNat (0x41 + n))) (c : Char) :
    f c.toLower = f c := by
  by_cases hcapital : 0x41 ≤ c.toNat ∧ c.toNat ≤ 0x5A
  · have hsmall : ∀ n < 26, (Char.ofNat (0x41 + n)).toLower = Char.ofNat (0x61 + n) := by decide
    have hc : c = Char.ofNat (0x41 + (c.toNat - 0x41)) := by
      rw [Nat.add_sub_cancel' hcapital.1, Char.ofNat_toNat]
    have hn : c.toNat - 0x41 < 26 := by omega
    rw [hc, hsmall _ hn, h _ hn]
  · rw [toLower_of_not_capital hcapital]

theorem lowerChar_toLower (c : Char) : lowerChar c.toLower = lowerChar c :=
  toLower_invariant (by decide) c

theorem toUpper_toLower (c : Char) : c.toLower.toUpper = c.toUpper :=
  toLower_invariant (f := Char.toUpper) (by decide) c

theorem isBlank_toLower (c : Char) : isBlank c.toLower = isBlank c :=
  toLower_invariant (by decide) c

theorem isCased_toLower (c : Char) : within cased c.toLower = within cased c :=
  toLower_invariant (by decide) c

theorem ignorable_misses : ∀ span ∈ ignorable, Nat.blt span.2 0x41 = true ∨
    (Nat.blt 0x5A span.1 && Nat.blt span.2 0x61) = true ∨ Nat.blt 0x7A span.1 = true := by
  decide +kernel

/-- No letter of ASCII is ignorable. -/
theorem not_ignorable_letter
    (h : 0x41 ≤ c.toNat ∧ c.toNat ≤ 0x5A ∨ 0x61 ≤ c.toNat ∧ c.toNat ≤ 0x7A) :
    within ignorable c = false := by
  rw [within, List.any_eq_false]
  intro span hspan
  have hmisses := ignorable_misses span hspan
  simp only [Bool.and_eq_true, Nat.blt_eq] at hmisses
  simp only [Bool.and_eq_true, decide_eq_true_eq]
  omega

theorem isIgnorable_toLower (c : Char) : within ignorable c.toLower = within ignorable c := by
  apply toLower_invariant
  intro n hn
  have hsmall : ∀ n < 26, (Char.ofNat (0x61 + n)).toNat = 0x61 + n := by decide
  have hcapital : ∀ n < 26, (Char.ofNat (0x41 + n)).toNat = 0x41 + n := by decide
  have hsmall := hsmall n hn
  have hcapital := hcapital n hn
  rw [not_ignorable_letter (.inr (by omega)), not_ignorable_letter (.inl (by omega))]

/-- A character that is no letter of ASCII comes from itself only. -/
theorem toLower_beq {d : Char} (h : ∀ n < 26, (Char.ofNat (0x61 + n) == d) =
    (Char.ofNat (0x41 + n) == d)) (c : Char) : (c.toLower == d) = (c == d) :=
  toLower_invariant (f := (· == d)) h c

/-! ### Texts -/

theorem meetsCased_asciiLower (t : Text) : meetsCased (asciiLower t) = meetsCased t := by
  have hskip : within ignorable ∘ Char.toLower = within ignorable := funext isIgnorable_toLower
  unfold meetsCased asciiLower
  rw [List.dropWhile_map, hskip]
  cases t.dropWhile (within ignorable) with
  | nil => rfl
  | cons c rest => exact isCased_toLower c

theorem lowerAt_asciiLower (before : Text) (c : Char) (after : Text) :
    lowerAt (asciiLower before) c.toLower (asciiLower after) = lowerAt before c after := by
  simp only [lowerAt, meetsCased_asciiLower, lowerChar_toLower,
    toLower_beq (d := 'Σ') (by decide), toLower_beq (d := 'İ') (by decide)]

theorem lowerLoop_asciiLower (before done t : Text) :
    lowerLoop (asciiLower before) done (asciiLower t) = lowerLoop before done t := by
  induction t generalizing before done with
  | nil => rfl
  | cons c rest ih =>
    have hstep := ih (c :: before) ((lowerAt before c rest).reverse ++ done)
    rw [← lowerAt_asciiLower] at hstep
    rw [lowerLoop, ← lowerAt_asciiLower]
    exact hstep

theorem lower_asciiLower (t : Text) : lower (asciiLower t) = lower t :=
  lowerLoop_asciiLower [] [] t

theorem trim_asciiLower (t : Text) : trim (asciiLower t) = asciiLower (trim t) := by
  have hblank : isBlank ∘ Char.toLower = isBlank := funext isBlank_toLower
  unfold trim trimEnd asciiLower
  rw [List.dropWhile_map, ← List.map_reverse, List.dropWhile_map, hblank, List.map_reverse]

theorem SameLetters.lower_eq (h : SameLetters s t) : lower s = lower t := by
  rw [← lower_asciiLower s, h, lower_asciiLower]

theorem SameLetters.trim (h : SameLetters s t) : SameLetters (trim s) (trim t) := by
  rw [SameLetters, ← trim_asciiLower, h, trim_asciiLower]

end AddressBook.Text
