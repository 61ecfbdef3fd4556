import AddressBook.Text.Case

/-!
Lower-casing twice is lower-casing once. Only two characters are treated in a way of their own, and
neither of them is the lower-case form of another.
-/
namespace AddressBook.Text

open CaseTable

variable {t before done after : Text} {c d : Char} {r s : Shift} {n : Nat}

/-- Whether a run may send a character to one that another run covers. Runs that leave out every
other character may pass each other by. -/
def CaseTable.Shift.meets (s r : Shift) : Bool :=
  Nat.ble r.first (s.last + s.delta).toNat && Nat.ble (s.first + s.delta).toNat r.last &&
    !(r.step == 2 && (s.step == 2 || s.first == s.last) &&
      ((s.first + s.delta).toNat + r.first) % 2 == 1)

theorem not_covers_of_not_meets (h : s.meets r = false) (hs : s.covers n)
    (hpos : 0 ≤ s.first + s.delta) : r.covers (n + s.delta).toNat = false := by
  cases hr : r.covers (n + s.delta).toNat with
  | false => rfl
  | true =>
    simp only [Shift.covers, Bool.and_eq_true, decide_eq_true_eq, beq_iff_eq] at hs hr
    obtain ⟨⟨hfirst, hlast⟩, hstep⟩ := hs
    obtain ⟨⟨hfirst', hlast'⟩, hstep'⟩ := hr
    have hlow : Nat.ble r.first (s.last + s.delta).toNat := Nat.ble_eq_true_of_le (by omega)
    have hhigh : Nat.ble (s.first + s.delta).toNat r.last := Nat.ble_eq_true_of_le (by omega)
    simp only [Shift.meets, hlow, hhigh, Bool.true_and, Bool.not_eq_false', Bool.and_eq_true,
      Bool.or_eq_true, beq_iff_eq] at h
    obtain ⟨⟨htwo, halternate⟩, hodd⟩ := h
    rw [htwo] at hstep'
    rcases halternate with htwo' | honly
    · rw [htwo'] at hstep
      omega
    · omega

/-- The capital letters of ASCII and the dotted capital I, as runs. -/
def capitals : List Shift := [⟨0x41, 0x5A, 1, 0⟩, ⟨0x130, 0x130, 1, 0⟩]

theorem lowering_misses : lowering.all (fun s => !(capitals ++ lowering).any s.meets) = true := by
  decide +kernel

theorem lowering_nonneg : ∀ s ∈ lowering, 0 ≤ s.first + s.delta := by
  decide +kernel

/-- No run goes on where another one ends. -/
theorem not_covers_shifted (hs : s ∈ lowering) (hcovers : s.covers n)
    (hr : r ∈ capitals ++ lowering) : r.covers (n + s.delta).toNat = false := by
  refine not_covers_of_not_meets ?_ hcovers (lowering_nonneg s hs)
  have hmisses := List.all_eq_true.1 lowering_misses s hs
  rw [Bool.not_eq_true', List.any_eq_false] at hmisses
  simpa using hmisses r hr

/-- A character that lower-casing leaves as it is, whatever stands around it. -/
structure Small (c : Char) : Prop where
  self : lowerChar c = c
  sigma : c ≠ 'Σ'
  dotted : c ≠ 'İ'

theorem lowerChar_of_ascii (h : c.toNat < 0x80) : lowerChar c = c.toLower := if_pos h

theorem small_toLower (h : c.toNat < 0x80) : Small c.toLower := by
  have hall : ∀ n < 0x80, lowerChar (Char.ofNat n).toLower = (Char.ofNat n).toLower ∧
      (Char.ofNat n).toLower ≠ 'Σ' ∧ (Char.ofNat n).toLower ≠ 'İ' := by
    decide +kernel
  obtain ⟨hself, hsigma, hdotted⟩ := hall c.toNat h
  rw [Char.ofNat_toNat] at hself hsigma hdotted
  exact ⟨hself, hsigma, hdotted⟩

theorem small_of_not_covers (hletter : ¬ (0x41 ≤ c.toNat ∧ c.toNat ≤ 0x5A)) (hdotted : c ≠ 'İ')
    (h : ∀ r ∈ lowering, r.covers c.toNat = false) : Small c := by
  refine ⟨?_, ?_, hdotted⟩
  · unfold lowerChar
    split
    case isTrue =>
      unfold Char.toLower
      rw [dif_neg]
      simp only [ge_iff_le, UInt32.le_iff_toNat_le]
      exact hletter
    case isFalse =>
      have hnone : lowering.find? (·.covers c.toNat) = none := by
        rw [List.find?_eq_none]
        intro r hr
        simp [h r hr]
      rw [shifted, hnone]
  · rintro rfl
    have hcovered : lowering.any (·.covers 'Σ'.toNat) = true := by decide +kernel
    obtain ⟨r, hr, hcovers⟩ := List.any_eq_true.1 hcovered
    rw [h r hr] at hcovers
    cases hcovers

theorem toNat_ofNat (n : Nat) : (Char.ofNat n).toNat = n ∨ Char.ofNat n = '\x00' := by
  by_cases h : n.isValidChar
  · left
    rw [Char.ofNat, dif_pos h]
    rfl
  · right
    rw [Char.ofNat, dif_neg h]
    rfl

theorem small_shifted (hs : s ∈ lowering) (h : s.covers c.toNat) :
    Small (Char.ofNat (c.toNat + s.delta).toNat) := by
  rcases toNat_ofNat (c.toNat + s.delta).toNat with hchar | hzero
  · have hcapital {r : Shift} (hr : r ∈ capitals) :
        r.covers (c.toNat + s.delta).toNat = false :=
      not_covers_shifted hs h (List.mem_append_left _ hr)
    apply small_of_not_covers
    · intro hletter
      have hnot := hcapital (List.mem_cons_self ..)
      rw [hchar] at hletter
      simp [Shift.covers, hletter, Nat.mod_one] at hnot
    · intro hdotted
      have hnot := hcapital (List.mem_cons_of_mem _ (List.mem_cons_self ..))
      rw [← hchar, hdotted] at hnot
      exact absurd hnot (by decide)
    · intro r hr
      rw [hchar]
      exact not_covers_shifted hs h (List.mem_append_right _ hr)
  · rw [hzero]
    exact small_toLower (c := '\x00') (by decide)

theorem small_lowerChar (h : c ≠ 'İ') : Small (lowerChar c) := by
  unfold lowerChar
  split
  case isTrue hascii => exact small_toLower hascii
  case isFalse hascii =>
    unfold shifted
    split
    case h_1 s hfind =>
      have hcovers := List.find?_some hfind
      exact small_shifted (List.mem_of_find?_eq_some hfind) hcovers
    case h_2 hfind =>
      refine small_of_not_covers (fun hletter => hascii (by omega)) h ?_
      intro r hr
      simpa using List.find?_eq_none.1 hfind r hr

theorem lowerLoop_eq_map (h : ∀ c ∈ t, c ≠ 'Σ' ∧ c ≠ 'İ') :
    lowerLoop before done t = done.reverse ++ t.map lowerChar := by
  induction t generalizing before done with
  | nil => simp [lowerLoop]
  | cons c rest ih =>
    obtain ⟨⟨hsigma, hdotted⟩, hrest⟩ := List.forall_mem_cons.1 h
    have hat : lowerAt before c rest = [lowerChar c] := by simp [lowerAt, hsigma, hdotted]
    rw [lowerLoop, hat, ih hrest]
    simp

theorem lower_eq_map (h : ∀ c ∈ t, c ≠ 'Σ' ∧ c ≠ 'İ') : lower t = t.map lowerChar :=
  lowerLoop_eq_map h

theorem small_of_mem_lowerAt (h : d ∈ lowerAt before c after) : Small d := by
  unfold lowerAt at h
  split at h
  case isTrue =>
    rw [List.mem_singleton.1 h]
    split
    · exact ⟨by decide +kernel, by decide, by decide⟩
    · exact ⟨by decide +kernel, by decide, by decide⟩
  case isFalse =>
    split at h
    case isTrue =>
      simp only [List.mem_cons, List.not_mem_nil, or_false] at h
      rcases h with rfl | rfl
      · exact ⟨by decide, by decide, by decide⟩
      · exact ⟨by decide +kernel, by decide, by decide⟩
    case isFalse hdotted =>
      rw [List.mem_singleton.1 h]
      exact small_lowerChar (by simpa using hdotted)

theorem small_of_mem_lowerLoop (hdone : ∀ c ∈ done, Small c) (h : c ∈ lowerLoop before done t) :
    Small c := by
  induction t generalizing before done with
  | nil => exact hdone c (List.mem_reverse.1 h)
  | cons x rest ih =>
    rw [lowerLoop] at h
    apply ih _ h
    intro d hd
    rcases List.mem_append.1 hd with hd | hd
    · exact small_of_mem_lowerAt (List.mem_reverse.1 hd)
    · exact hdone d hd

theorem small_of_mem_lower (h : c ∈ lower t) : Small c :=
  small_of_mem_lowerLoop (List.forall_mem_nil _) h

theorem lower_of_small (h : ∀ c ∈ t, Small c) : lower t = t := by
  rw [lower_eq_map fun c hc => ⟨(h c hc).sigma, (h c hc).dotted⟩]
  conv => rhs; rw [← List.map_id t]
  exact List.map_congr_left fun c hc => (h c hc).self

theorem lowerLoop_done (before done t : Text) :
    lowerLoop before done t = done.reverse ++ lowerLoop before [] t := by
  induction t generalizing before done with
  | nil => simp [lowerLoop]
  | cons c rest ih =>
    rw [lowerLoop, lowerLoop, ih, ih (c :: before) ((lowerAt before c rest).reverse ++ [])]
    simp

/-- A text that starts with an ASCII character starts with its small form in lower case. -/
theorem lower_cons_ascii (h : c.toNat < 0x80) :
    ∃ behind, lower (c :: t) = c.toLower :: behind := by
  have hsigma : c ≠ 'Σ' := by
    rintro rfl
    exact absurd h (by decide)
  have hdotted : c ≠ 'İ' := by
    rintro rfl
    exact absurd h (by decide)
  have hat : lowerAt [] c t = [c.toLower] := by
    simp [lowerAt, hsigma, hdotted, lowerChar_of_ascii h]
  refine ⟨lowerLoop [c] [] t, ?_⟩
  rw [lower, lowerLoop, hat, lowerLoop_done]
  rfl

end AddressBook.Text
