import AddressBook.Proofs.Text.Case

/-!
Upper-casing seen from its result. Beyond ASCII there are letters whose upper-case form is in ASCII,
such as the dotless i and the ligatures, but each of them leaves an F, an I or an S behind. Other
texts of visible ASCII characters come from ASCII only.
-/
namespace AddressBook.Text

open CaseTable

variable {t w : Text} {c u : Char}

/-- A visible ASCII character other than F, I and S. -/
def IsNative (u : Char) : Prop := 0x20 < u.toNat ∧ u.toNat < 0x80 ∧ u ∉ ['F', 'I', 'S']

instance : DecidablePred IsNative := fun _ => inferInstanceAs (Decidable (_ ∧ _ ∧ _))

-- As a test on the list: to decide that there is such a character would be to try all of them.
theorem growing_foreign :
    ∀ entry ∈ growing, (entry.2.map Char.ofNat).any (fun u => decide (¬ IsNative u)) = true := by
  decide +kernel

/-- A run either stays beyond ASCII or is of one character, whose upper-case form is not native. -/
theorem raising_foreign : ∀ s ∈ raising, (0x80 : Int) ≤ s.first + s.delta ∨
    s.first = s.last ∧ ¬ IsNative (Char.ofNat (s.first + s.delta).toNat) := by
  decide +kernel

theorem not_isNative_ofNat {n : Nat} (h : 0x80 ≤ n) : ¬ IsNative (Char.ofNat n) := by
  rintro ⟨hvisible, hascii, -⟩
  rcases toNat_ofNat n with hchar | hzero
  · omega
  · rw [hzero] at hvisible
    exact absurd hvisible (by decide)

theorem shifted_foreign (h : 0x80 ≤ c.toNat) : ¬ IsNative (shifted raising c) := by
  unfold shifted
  cases hfind : raising.find? (·.covers c.toNat) with
  | none =>
    intro hnative
    have hascii : c.toNat < 0x80 := hnative.2.1
    omega
  | some s =>
    have hcovers := List.find?_some hfind
    simp only [Shift.covers, Bool.and_eq_true, decide_eq_true_eq] at hcovers
    obtain ⟨⟨hfirst, hlast⟩, -⟩ := hcovers
    rcases raising_foreign s (List.mem_of_find?_eq_some hfind) with hbeyond | ⟨hone, hforeign⟩
    · exact not_isNative_ofNat (by omega)
    · have hc : c.toNat = s.first := by omega
      rw [hc]
      exact hforeign

/-- The upper-case form of a character beyond ASCII has something in it that is not native. -/
theorem exists_foreign (h : 0x80 ≤ c.toNat) : ∃ u ∈ upperChar c, ¬ IsNative u := by
  have hnot : ¬ c.toNat < 0x80 := by omega
  rw [upperChar, if_neg hnot]
  cases hfind : growing.find? (·.1 == c.toNat) with
  | some entry =>
    have hforeign := growing_foreign entry (List.mem_of_find?_eq_some hfind)
    simpa only [List.any_eq_true, decide_eq_true_eq] using hforeign
  | none => exact ⟨_, List.mem_singleton_self _, shifted_foreign h⟩

theorem toUpper_of_not_ascii (h : 0x80 ≤ c.toNat) : c.toUpper = c := by
  unfold Char.toUpper
  rw [dif_neg]
  simp only [UInt32.le_iff_toNat_le]
  intro hsmall
  have hlast : c.toNat ≤ 122 := hsmall.2
  omega

/-- A character that ASCII raises to a native one is in ASCII itself. -/
theorem ascii_of_toUpper (h : IsNative c.toUpper) : c.toNat < 0x80 := by
  rcases Nat.lt_or_ge c.toNat 0x80 with hascii | hbeyond
  · exact hascii
  · rw [toUpper_of_not_ascii hbeyond] at h
    exact h.2.1

/-- Where the result is native, full upper-casing is that of ASCII. -/
theorem upper_eq_iff (hw : ∀ u ∈ w, IsNative u) : upper t = w ↔ t.map Char.toUpper = w := by
  induction t generalizing w with
  | nil => exact Iff.rfl
  | cons c rest ih =>
    have hupper : upper (c :: rest) = upperChar c ++ upper rest := List.flatMap_cons
    rw [hupper, List.map_cons]
    by_cases hascii : c.toNat < 0x80
    · rw [upperChar, if_pos hascii]
      cases w with
      | nil => simp
      | cons u w =>
        rw [List.singleton_append, List.cons.injEq, List.cons.injEq,
          ih (List.forall_mem_cons.1 hw).2]
    · constructor
      · rintro rfl
        obtain ⟨u, hu, hforeign⟩ := exists_foreign (c := c) (by omega)
        exact absurd (hw u (List.mem_append_left _ hu)) hforeign
      · rintro rfl
        exact absurd (ascii_of_toUpper (hw _ (List.mem_cons_self ..))) hascii

end AddressBook.Text
