import AddressBook.Text.Blank
import Mathlib.Data.List.Chain
import Mathlib.Data.List.DropRight

/-! Texts without outer blanks, and texts whose runs are squeezed. -/
namespace AddressBook.Text

variable {t u : Text} {c : Char} {cut : Char → Bool} {glue : Char} {inRun : Bool}

/-! ### Outer blanks -/

/-- A text neither starts nor ends with a blank. -/
structure Trimmed (t : Text) : Prop where
  head : ∀ c ∈ t.head?, isBlank c = false
  last : ∀ c ∈ t.getLast?, isBlank c = false

theorem trim_eq (t : Text) : trim t = (t.dropWhile isBlank).rdropWhile isBlank := rfl

theorem trim_part (t : Text) : trim t <:+: t :=
  ( List.rdropWhile_prefix ..).isInfix.trans (List.dropWhile_suffix _).isInfix

theorem length_trim_le (t : Text) : (trim t).length ≤ t.length := (trim_part t).length_le

theorem head_dropWhile_isBlank (t : Text) :
    ∀ c ∈ (t.dropWhile isBlank).head?, isBlank c = false := by
  intro c hc
  have hnot := List.head?_dropWhile_not isBlank t
  rwa [Option.mem_def.1 hc] at hnot

theorem trimmed_trim (t : Text) : Trimmed (trim t) := by
  rw [trim_eq]
  constructor
  · -- what is left at the front is the front of the text without its first blanks
    intro c hc
    obtain ⟨rest, hrest⟩ := List.rdropWhile_prefix isBlank (t.dropWhile isBlank)
    apply head_dropWhile_isBlank t c
    rw [← hrest, List.head?_append, Option.mem_def.1 hc]
    rfl
  · intro c hc
    have hne : (t.dropWhile isBlank).rdropWhile isBlank ≠ [] := by
      rintro hnil
      simp [hnil] at hc
    have hlast := List.rdropWhile_last_not isBlank (t.dropWhile isBlank) hne
    rw [List.getLast?_eq_some_getLast hne, Option.mem_some_iff] at hc
    rw [← hc]
    simpa using hlast

/-- Blanks around a text do not matter. -/
theorem Trimmed.trim_around {before after : Text} (h : Trimmed t) (hne : t ≠ [])
    (hb : ∀ c ∈ before, isBlank c) (ha : ∀ c ∈ after, isBlank c) :
    trim (before ++ t ++ after) = t := by
  have hfront : (before ++ t ++ after).dropWhile isBlank = t ++ after := by
    rw [List.append_assoc, List.dropWhile_append_of_pos hb]
    cases t with
    | nil => exact absurd rfl hne
    | cons c rest => exact List.dropWhile_cons_of_neg (by simp [h.head c rfl])
  have hback : t.rdropWhile isBlank = t := by
    rw [List.rdropWhile_eq_self_iff]
    intro hne
    simp [h.last _ (List.getLast?_eq_some_getLast hne)]
  rw [trim_eq, hfront, List.rdropWhile, List.reverse_append,
    List.dropWhile_append_of_pos (by simpa using ha)]
  exact hback

theorem Trimmed.trim_eq (h : Trimmed t) : trim t = t := by
  cases t with
  | nil => rfl
  | cons c rest =>
    have hnone : ∀ c ∈ ([] : Text), isBlank c := by simp
    simpa using h.trim_around (List.cons_ne_nil c rest) hnone hnone

theorem trim_trim (t : Text) : trim (trim t) = trim t := (trimmed_trim t).trim_eq

theorem trimmed_iff : Trimmed t ↔ trim t = t :=
  ⟨Trimmed.trim_eq, fun h => h ▸ trimmed_trim t⟩

/-- A text that starts with no blank keeps its first character. -/
theorem trim_cons (h : isBlank c = false) : ∃ behind, trim (c :: t) = c :: behind := by
  have hfront : (c :: t).dropWhile isBlank = c :: t := List.dropWhile_cons_of_neg (by simp [h])
  have hprefix := List.rdropWhile_prefix isBlank (c :: t)
  rw [trim_eq, hfront]
  cases htrim : (c :: t).rdropWhile isBlank with
  | nil =>
    have hall := List.rdropWhile_eq_nil_iff.1 htrim c (List.mem_cons_self ..)
    rw [h] at hall
    cases hall
  | cons d behind =>
    rw [htrim] at hprefix
    exact ⟨behind, by rw [(List.cons_prefix_cons.1 hprefix).1]⟩

theorem trim_eq_nil_iff : trim t = [] ↔ ∀ c ∈ t, isBlank c := by
  rw [trim_eq, List.rdropWhile_eq_nil_iff, ← List.dropWhile_eq_nil_iff, List.dropWhile_idempotent,
    List.dropWhile_eq_nil_iff]

/-! ### Squeezed runs -/

/-- Of the characters that are cut out, only the glue is left, and never twice in a row. -/
structure Squeezed (cut : Char → Bool) (glue : Char) (t : Text) : Prop where
  only : ∀ c ∈ t, cut c → c = glue
  single : t.IsChain fun a b => ¬ (cut a ∧ cut b)

theorem Squeezed.part (h : Squeezed cut glue t) (hu : u <:+: t) : Squeezed cut glue u :=
  ⟨fun c hc => h.only c (hu.mem hc), List.IsChain.infix h.single hu⟩

theorem squeezed_cons : Squeezed cut glue (c :: t) ↔
    (cut c → c = glue ∧ ∀ d ∈ t.head?, cut d = false) ∧ Squeezed cut glue t := by
  constructor
  · rintro ⟨honly, hsingle⟩
    obtain ⟨hhead, hrest⟩ := List.isChain_cons.1 hsingle
    obtain ⟨hc, honly⟩ := List.forall_mem_cons.1 honly
    refine ⟨fun hcut => ⟨hc hcut, fun d hd => ?_⟩, honly, hrest⟩
    simpa [hcut] using hhead d hd
  · rintro ⟨hc, honly, hrest⟩
    refine ⟨List.forall_mem_cons.2 ⟨fun hcut => (hc hcut).1, honly⟩,
      List.isChain_cons.2 ⟨?_, hrest⟩⟩
    rintro d hd ⟨hcut, hcutd⟩
    simp [(hc hcut).2 d hd] at hcutd

theorem Squeezed.squeezeFrom_eq (h : Squeezed cut glue t)
    (hrun : inRun → ∀ c ∈ t.head?, cut c = false) : squeezeFrom cut glue inRun t = t := by
  induction t generalizing inRun with
  | nil => rw [squeezeFrom]
  | cons c rest ih =>
    obtain ⟨hc, hrest⟩ := squeezed_cons.1 h
    rw [squeezeFrom]
    by_cases hcut : cut c
    · obtain ⟨rfl, hnext⟩ := hc hcut
      have hout : inRun = false := by
        cases inRun with
        | false => rfl
        | true => simpa [hcut] using hrun rfl c rfl
      rw [if_pos hcut, hout, if_neg Bool.false_ne_true, ih hrest fun _ => hnext]
    · rw [if_neg hcut, ih hrest (by simp)]

theorem squeezed_squeezeFrom (inRun : Bool) (t : Text) :
    Squeezed cut glue (squeezeFrom cut glue inRun t) ∧
      (inRun → ∀ c ∈ (squeezeFrom cut glue inRun t).head?, cut c = false) := by
  induction t generalizing inRun with
  | nil =>
    rw [squeezeFrom]
    exact ⟨⟨by simp, .nil⟩, by simp⟩
  | cons c rest ih =>
    rw [squeezeFrom]
    by_cases hcut : cut c
    · rw [if_pos hcut]
      obtain ⟨hs, hnext⟩ := ih true
      cases inRun with
      | true => exact ⟨hs, hnext⟩
      | false => exact ⟨squeezed_cons.2 ⟨fun _ => ⟨rfl, hnext rfl⟩, hs⟩, by simp⟩
    · rw [if_neg hcut]
      exact ⟨squeezed_cons.2 ⟨fun h => absurd h hcut, (ih false).1⟩, by simp [hcut]⟩

theorem mem_of_squeezeFrom (h : c ∈ squeezeFrom cut glue inRun t) : c = glue ∨ c ∈ t := by
  induction t generalizing inRun with
  | nil =>
    rw [squeezeFrom] at h
    cases h
  | cons d rest ih =>
    rw [squeezeFrom] at h
    have hrest {run : Bool} (hmem : c ∈ squeezeFrom cut glue run rest) : c = glue ∨ c ∈ d :: rest :=
      (ih hmem).imp_right (List.mem_cons_of_mem _)
    split at h
    · split at h
      · exact hrest h
      · exact (List.mem_cons.1 h).elim .inl hrest
    · rcases List.mem_cons.1 h with rfl | h
      · exact .inr (List.mem_cons_self ..)
      · exact hrest h

theorem mem_squeezeFrom (hc : c ∈ t) (hcut : cut c = false) : c ∈ squeezeFrom cut glue inRun t := by
  induction t generalizing inRun with
  | nil => cases hc
  | cons d rest ih =>
    rw [squeezeFrom]
    rcases List.mem_cons.1 hc with rfl | hc
    · simp [hcut]
    · split
      · split
        · exact ih hc
        · exact List.mem_cons_of_mem _ (ih hc)
      · exact List.mem_cons_of_mem _ (ih hc)

theorem length_squeezeFrom_le (cut : Char → Bool) (glue : Char) (inRun : Bool) (t : Text) :
    (squeezeFrom cut glue inRun t).length ≤ t.length := by
  induction t generalizing inRun with
  | nil => exact Nat.le_refl _
  | cons c rest ih =>
    have htrue := ih true
    have hfalse := ih false
    unfold squeezeFrom
    split
    · split
      · exact Nat.le_succ_of_le htrue
      · exact Nat.succ_le_succ htrue
    · exact Nat.succ_le_succ hfalse

/-- A text whose runs are squeezed already stays as it is. -/
theorem Squeezed.squeeze_eq (h : Squeezed cut glue t) : squeeze cut glue t = t :=
  h.squeezeFrom_eq (by simp)

theorem squeezed_squeeze (t : Text) : Squeezed cut glue (squeeze cut glue t) :=
  (squeezed_squeezeFrom false t).1

end AddressBook.Text
