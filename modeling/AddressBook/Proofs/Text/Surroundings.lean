import AddressBook.Proofs.Text.Case
import Mathlib.Data.List.TakeWhile

/-!
Lower-casing a part of a text. What stands around the part matters only to its capital sigmas, and
to these only if there is nothing but ignorable characters between them and an end of the part. A
text whose sigmas do not lean on what stands around it is found wherever it occurs; any other text
is lost beside some letter.
-/
namespace AddressBook.Text

open CaseTable

/-- The lower-case form of a text between two others; the one before it is given nearest first. -/
def lowerBetween (before : Text) : Text → Text → Text
  | [], _ => []
  | c :: rest, after => lowerAt before c (rest ++ after) ++ lowerBetween (c :: before) rest after

/-- Whether a capital sigma between two texts stands at the end of a word. -/
def endsWord (before after : Text) : Bool := meetsCased before && !meetsCased after

/-- The lower-case form of a capital sigma. -/
def sigma (final : Bool) : Char := if final then 'ς' else 'σ'

/-- Whether every capital sigma of a text has the same form between two texts as without them. -/
def KeepsSigmas (before t after : Text) : Prop :=
  ∀ a b, t = a ++ 'Σ' :: b →
    endsWord (a.reverse ++ before.reverse) (b ++ after) = endsWord a.reverse b

/-- The text before and behind the first character of a text that is not ignorable, if that is a
capital sigma. -/
def leadingSigma? (t : Text) : Option Text :=
  match t.dropWhile (within ignorable) with
  | [] => none
  | c :: rest => if c = 'Σ' then some rest else none

/-- Whether a text starts with a capital sigma that no letter follows, or ends with one that a
letter precedes, ignorable characters aside: the form of such a sigma leans on what stands beside
it. -/
def LeansOut (t : Text) : Prop :=
  (∃ rest ∈ leadingSigma? t, meetsCased rest = false) ∨
    ∃ rest ∈ leadingSigma? t.reverse, meetsCased rest = true

variable {before before' after after' s t u a b rest : Text} {c : Char}

instance : Decidable (LeansOut t) := inferInstanceAs (Decidable (_ ∨ _))

/-- The places of a character, as places and as ways to split the text. -/
theorem forall_split_iff {P : Text → Text → Prop} : (∀ a b, t = a ++ c :: b → P a b) ↔
    ∀ i < t.length, t[i]? = some c → P (t.take i) (t.drop (i + 1)) := by
  constructor
  · intro h i hi hc
    apply h
    obtain ⟨hi, rfl⟩ := List.getElem?_eq_some_iff.1 hc
    rw [List.getElem_cons_drop, List.take_append_drop]
  · rintro h a b rfl
    simpa using h a.length (by simp) (by simp)

instance : Decidable (KeepsSigmas before t after) := decidable_of_iff _ forall_split_iff.symm

/-! ### Letters nearby -/

theorem meetsCased_append_of_ignorable (h : ∀ c ∈ t, within ignorable c = true) :
    meetsCased (t ++ u) = meetsCased u := by
  unfold meetsCased
  rw [List.dropWhile_append_of_pos h]

/-- Behind a character that is not ignorable nothing matters. -/
theorem meetsCased_append (h : ¬ ∀ c ∈ t, within ignorable c = true) :
    meetsCased (t ++ u) = meetsCased t := by
  have hne : t.dropWhile (within ignorable) ≠ [] := fun hnil => h (List.dropWhile_eq_nil_iff.1 hnil)
  unfold meetsCased
  rw [List.dropWhile_append, if_neg (by simpa using hne)]
  cases hdrop : t.dropWhile (within ignorable) with
  | nil => exact absurd hdrop hne
  | cons c rest => rfl

theorem meetsCased_of_ignorable (h : ∀ c ∈ t, within ignorable c = true) :
    meetsCased t = false := by
  rw [meetsCased, List.dropWhile_eq_nil_iff.2 h]

theorem not_ignorable_sigma : within ignorable 'Σ' = false := by decide +kernel

theorem leadingSigma?_eq_some_iff : leadingSigma? t = some rest ↔
    ∃ a, t = a ++ 'Σ' :: rest ∧ ∀ c ∈ a, within ignorable c = true := by
  constructor
  · intro h
    refine ⟨t.takeWhile (within ignorable), ?_, fun c hc => List.mem_takeWhile_imp hc⟩
    unfold leadingSigma? at h
    split at h
    case h_1 => cases h
    case h_2 c behind hdrop =>
      split at h
      case isTrue hc =>
        rw [← hc, ← Option.some.inj h, ← hdrop, List.takeWhile_append_dropWhile]
      case isFalse => cases h
  · rintro ⟨a, rfl, ha⟩
    have hdrop : (a ++ 'Σ' :: rest).dropWhile (within ignorable) = 'Σ' :: rest := by
      rw [List.dropWhile_append_of_pos ha]
      exact List.dropWhile_cons_of_neg (by simp [not_ignorable_sigma])
    rw [leadingSigma?, hdrop]
    exact if_pos rfl

theorem leansOut_left (ha : ∀ c ∈ a, within ignorable c = true) (hb : meetsCased b = false) :
    LeansOut (a ++ 'Σ' :: b) :=
  .inl ⟨b, leadingSigma?_eq_some_iff.2 ⟨a, rfl, ha⟩, hb⟩

theorem leansOut_right (hb : ∀ c ∈ b, within ignorable c = true)
    (ha : meetsCased a.reverse = true) : LeansOut (a ++ 'Σ' :: b) := by
  refine .inr ⟨a.reverse, leadingSigma?_eq_some_iff.2 ⟨b.reverse, by simp, ?_⟩, ha⟩
  simpa using hb

/-- A text leans out at one end or at the other. -/
theorem LeansOut.split (h : LeansOut t) : ∃ a b, t = a ++ 'Σ' :: b ∧
    ((∀ c ∈ a, within ignorable c = true) ∧ meetsCased b = false ∨
      (∀ c ∈ b, within ignorable c = true) ∧ meetsCased a.reverse = true) := by
  rcases h with ⟨rest, hrest, hcased⟩ | ⟨rest, hrest, hcased⟩
  · obtain ⟨a, rfl, ha⟩ := leadingSigma?_eq_some_iff.1 hrest
    exact ⟨a, rest, rfl, .inl ⟨ha, hcased⟩⟩
  · obtain ⟨b, hb, hignorable⟩ := leadingSigma?_eq_some_iff.1 hrest
    refine ⟨rest.reverse, b.reverse, ?_, .inr ⟨by simpa using hignorable, by simpa using hcased⟩⟩
    rw [← List.reverse_inj, hb]
    simp

/-- The sigmas of a text that does not lean out have the same forms wherever it stands. -/
theorem keepsSigmas_of_not_leansOut (h : ¬ LeansOut t) (before after : Text) :
    KeepsSigmas before t after := by
  rintro a b rfl
  unfold endsWord
  by_cases ha : ∀ c ∈ a, within ignorable c = true
  · have hmeets : meetsCased b = true := by
      by_contra hnot
      exact h (leansOut_left ha (by simpa using hnot))
    have hb : ¬ ∀ c ∈ b, within ignorable c = true := by
      intro hb
      rw [meetsCased_of_ignorable hb] at hmeets
      cases hmeets
    rw [meetsCased_append hb, hmeets, Bool.not_true, Bool.and_false, Bool.and_false]
  · have ha' : ¬ ∀ c ∈ a.reverse, within ignorable c = true := by simpa using ha
    rw [meetsCased_append ha']
    by_cases hb : ∀ c ∈ b, within ignorable c = true
    · have hmeets : meetsCased a.reverse = false := by
        by_contra hnot
        exact h (leansOut_right hb (by simpa using hnot))
      rw [hmeets, Bool.false_and, Bool.false_and]
    · rw [meetsCased_append hb]

/-! ### Parts of a text -/

theorem lowerLoop_eq_lowerBetween (before t : Text) :
    lowerLoop before [] t = lowerBetween before t [] := by
  induction t generalizing before with
  | nil => rfl
  | cons c rest ih =>
    rw [lowerLoop, lowerLoop_done, ih, lowerBetween, List.append_nil, List.append_nil,
      List.reverse_reverse]

theorem lower_eq_lowerBetween (t : Text) : lower t = lowerBetween [] t [] :=
  lowerLoop_eq_lowerBetween [] t

theorem lowerBetween_append (before s t after : Text) : lowerBetween before (s ++ t) after =
    lowerBetween before s (t ++ after) ++ lowerBetween (s.reverse ++ before) t after := by
  induction s generalizing before with
  | nil => rfl
  | cons c rest ih => simp [lowerBetween, ih]

theorem lowerAt_sigma (before after : Text) :
    lowerAt before 'Σ' after = [sigma (endsWord before after)] := rfl

theorem lowerAt_congr (h : c ≠ 'Σ') : lowerAt before c after = lowerAt before' c after' := by
  simp [lowerAt, h]

/-- What stands around a text changes nothing but the forms of its sigmas. -/
theorem lowerBetween_congr (h : ∀ a b, t = a ++ 'Σ' :: b →
      endsWord (a.reverse ++ before) (b ++ after) = endsWord (a.reverse ++ before') (b ++ after')) :
    lowerBetween before t after = lowerBetween before' t after' := by
  induction t generalizing before before' with
  | nil => rfl
  | cons c rest ih =>
    have hhead : lowerAt before c (rest ++ after) = lowerAt before' c (rest ++ after') := by
      by_cases hc : c = 'Σ'
      · subst hc
        rw [lowerAt_sigma, lowerAt_sigma]
        exact congrArg (fun form => [sigma form]) (h [] rest rfl)
      · exact lowerAt_congr hc
    rw [lowerBetween, lowerBetween, hhead]
    congr 1
    apply ih
    rintro a b rfl
    simpa using h (c :: a) b rfl

/-- Where its sigmas keep their forms, a text is found in lower case. -/
theorem KeepsSigmas.infix (h : KeepsSigmas before t after) :
    lower t <:+: lower (before ++ t ++ after) := by
  have hsame : lowerBetween before.reverse t after = lower t := by
    rw [lower_eq_lowerBetween]
    apply lowerBetween_congr
    intro a b hab
    rw [h a b hab, List.append_nil, List.append_nil]
  rw [lower_eq_lowerBetween (before ++ t ++ after), lowerBetween_append, lowerBetween_append,
    List.append_nil, List.append_nil, hsame]
  exact ⟨_, _, rfl⟩

/-! ### Texts that are lost -/

theorem sigma_not_mem (h : ∀ c ∈ t, within ignorable c = true) : 'Σ' ∉ t := by
  intro hmem
  have hsigma := h 'Σ' hmem
  rw [not_ignorable_sigma] at hsigma
  cases hsigma

/-- A text without sigmas looks the same anywhere. -/
theorem lowerBetween_of_ignorable (h : ∀ c ∈ t, within ignorable c = true) :
    lowerBetween before t after = lowerBetween before' t after' := by
  apply lowerBetween_congr
  rintro a b rfl
  exact absurd (by simp) (sigma_not_mem h)

/-- A sigma hides what stands behind it from the text before it. -/
theorem lowerBetween_hides_after :
    lowerBetween before t ('Σ' :: after) = lowerBetween before t ['Σ'] := by
  apply lowerBetween_congr
  rintro a b -
  have hshown : ¬ ∀ c ∈ b ++ ['Σ'], within ignorable c = true := by
    simp [not_ignorable_sigma]
  have hcut : b ++ 'Σ' :: after = b ++ ['Σ'] ++ after := by simp
  rw [hcut, endsWord, endsWord, meetsCased_append hshown]

/-- A sigma hides what stands before it from the text behind it. -/
theorem lowerBetween_hides_before :
    lowerBetween ('Σ' :: before) t after = lowerBetween ['Σ'] t after := by
  apply lowerBetween_congr
  rintro a b -
  have hshown : ¬ ∀ c ∈ a.reverse ++ ['Σ'], within ignorable c = true := by
    simp [not_ignorable_sigma]
  have hcut : a.reverse ++ 'Σ' :: before = a.reverse ++ ['Σ'] ++ before := by simp
  rw [hcut, endsWord, endsWord, meetsCased_append hshown]

/-- The parts before and behind a sigma do not see past it. -/
theorem lowerBetween_split (before a b after : Text) :
    lowerBetween before (a ++ 'Σ' :: b) after = lowerBetween before a ['Σ'] ++
      sigma (endsWord (a.reverse ++ before) (b ++ after)) :: lowerBetween ['Σ'] b after := by
  rw [lowerBetween_append, lowerBetween, lowerAt_sigma, List.cons_append,
    lowerBetween_hides_after, lowerBetween_hides_before]
  rfl

theorem lower_split (a b : Text) : lower (a ++ 'Σ' :: b) =
    lowerBetween [] a ['Σ'] ++ sigma (endsWord a.reverse b) :: lowerBetween ['Σ'] b [] := by
  rw [lower_eq_lowerBetween, lowerBetween_split, List.append_nil, List.append_nil]

theorem not_infix_of_count_lt (h : t.count c < s.count c) : ¬ s <:+: t :=
  fun hinfix => Nat.not_le_of_lt h (List.IsInfix.count_le c hinfix)

/-- A leading sigma that no letter follows turns final behind a letter. -/
theorem lost_behind (ha : ∀ c ∈ a, within ignorable c = true) (hb : meetsCased b = false) :
    ¬ lower (a ++ 'Σ' :: b) <:+: lower ('a' :: (a ++ 'Σ' :: b)) := by
  have ha' : ∀ c ∈ a.reverse, within ignorable c = true := by simpa using ha
  have hown : endsWord a.reverse b = false := by
    rw [endsWord, meetsCased_of_ignorable ha', Bool.false_and]
  have hbehind : endsWord (a.reverse ++ ['a']) b = true := by
    rw [endsWord, meetsCased_append_of_ignorable ha', hb]
    decide +kernel
  have hsame : lowerBetween ['a'] a ['Σ'] = lowerBetween [] a ['Σ'] := lowerBetween_of_ignorable ha
  have hlower : lower ('a' :: (a ++ 'Σ' :: b)) =
      'a' :: (lowerBetween [] a ['Σ'] ++ 'ς' :: lowerBetween ['Σ'] b []) := by
    rw [lower_eq_lowerBetween, lowerBetween, lowerBetween_split, List.append_nil, List.append_nil,
      hbehind, hsame]
    rfl
  apply not_infix_of_count_lt (c := 'σ')
  rw [lower_split, hown, hlower]
  simp [sigma]

/-- A last sigma that a letter precedes is not final before a letter. -/
theorem lost_before (hb : ∀ c ∈ b, within ignorable c = true) (ha : meetsCased a.reverse = true) :
    ¬ lower (a ++ 'Σ' :: b) <:+: lower (a ++ 'Σ' :: b ++ ['a']) := by
  have hown : endsWord a.reverse b = true := by
    rw [endsWord, ha, meetsCased_of_ignorable hb]
    rfl
  have hbefore : endsWord a.reverse (b ++ ['a']) = false := by
    rw [endsWord, meetsCased_append_of_ignorable hb, ha]
    decide +kernel
  have hsame : lowerBetween ['Σ'] b ['a'] = lowerBetween ['Σ'] b [] := lowerBetween_of_ignorable hb
  have hlower : lower (a ++ 'Σ' :: b ++ ['a']) =
      lowerBetween [] a ['Σ'] ++ 'σ' :: lowerBetween ['Σ'] b [] ++ ['a'] := by
    rw [lower_eq_lowerBetween, lowerBetween_append, List.append_nil, lowerBetween_split,
      List.append_nil, hbefore, hsame]
    rfl
  apply not_infix_of_count_lt (c := 'ς')
  rw [lower_split, hown, hlower]
  simp [sigma]

/-- A text that leans out is lost beside some letter. -/
theorem LeansOut.lost (h : LeansOut t) :
    ∃ before after, ¬ lower t <:+: lower (before ++ t ++ after) := by
  obtain ⟨a, b, rfl, ⟨ha, hb⟩ | ⟨hb, ha⟩⟩ := h.split
  · exact ⟨['a'], [], by simpa using lost_behind ha hb⟩
  · exact ⟨[], ['a'], by simpa using lost_before hb ha⟩

end AddressBook.Text
