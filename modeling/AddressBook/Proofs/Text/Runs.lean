import AddressBook.Proofs.Text.Blank
import Mathlib.Data.List.Flatten

/-!
Texts cut at the characters of a kind, and the runs between these. Everything about runs comes from
one equation: a character at which the text is cut parts its runs. Where a text has neither a blank
nor such a character at its ends, squeezing it puts the glue between its runs and nowhere else.
-/
namespace AddressBook.Text

variable {cut p : Char → Bool} {glue c : Char} {t u w : Text} {us ws : List Text} {inRun : Bool}

/-- The maximal parts of a text without the characters that `cut` picks out. -/
def runs (cut : Char → Bool) (t : Text) : List Text := (pieces cut t).filter (! ·.isEmpty)

theorem words_eq_runs (t : Text) : words t = runs isBlank t := rfl

theorem pieces_eq_splitOnP (cut : Char → Bool) (t : Text) : pieces cut t = t.splitOnP cut := by
  induction t with
  | nil => rfl
  | cons c rest ih =>
    rw [List.splitOnP_cons_eq_if_modifyHead, pieces, ih]
    cases hsplit : rest.splitOnP cut with
    | nil => exact absurd hsplit (List.splitOnP_ne_nil _ _)
    | cons piece others => rfl

theorem flatten_splitOnP {α : Type} (cut : α → Bool) (l : List α) :
    (l.splitOnP cut).flatten = l.filter (! cut ·) := by
  induction l with
  | nil => rfl
  | cons a rest ih =>
    rw [List.splitOnP_cons_eq_if_modifyHead, List.filter_cons]
    cases hcut : cut a with
    | true => simpa using ih
    | false =>
      cases hsplit : rest.splitOnP cut with
      | nil => exact absurd hsplit (List.splitOnP_ne_nil _ _)
      | cons run others =>
        rw [hsplit] at ih
        simpa using ih

/-! ### Runs -/

/-- Runs are parted by every character at which the text is cut. -/
theorem runs_append_cons (hc : cut c) (t u : Text) :
    runs cut (t ++ c :: u) = runs cut t ++ runs cut u := by
  simp only [runs, pieces_eq_splitOnP, List.splitOnP_append_cons t u hc, List.filter_append]

theorem runs_cons (hc : cut c) (t : Text) : runs cut (c :: t) = runs cut t :=
  runs_append_cons hc [] t

theorem runs_single (h : ∀ c ∈ t, cut c = false) (hne : t ≠ []) : runs cut t = [t] := by
  rw [runs, pieces_eq_splitOnP, List.splitOnP_eq_singleton h]
  simp [hne]

/-- The runs hold the characters at which the text is not cut, in their order. -/
theorem flatten_runs (cut : Char → Bool) (t : Text) :
    (runs cut t).flatten = t.filter (! cut ·) := by
  rw [runs, List.flatten_filter_not_isEmpty, pieces_eq_splitOnP, flatten_splitOnP]

theorem mem_runs (h : w ∈ runs cut t) : w ≠ [] ∧ ∀ c ∈ w, cut c = false := by
  obtain ⟨-, hne⟩ := List.mem_filter.1 h
  refine ⟨by simpa using hne, fun c hc => ?_⟩
  have hflat : c ∈ (runs cut t).flatten := List.mem_flatten.2 ⟨w, h, hc⟩
  rw [flatten_runs] at hflat
  simpa using (List.mem_filter.1 hflat).2

theorem runs_eq_nil_iff : runs cut t = [] ↔ ∀ c ∈ t, cut c := by
  have hflatten : (runs cut t).flatten = [] ↔ ∀ c ∈ t, cut c := by
    rw [flatten_runs, List.filter_eq_nil_iff]
    simp
  rw [← hflatten, List.flatten_eq_nil_iff]
  constructor
  · intro h w hw
    rw [h] at hw
    cases hw
  · intro h
    rw [List.eq_nil_iff_forall_not_mem]
    intro w hw
    exact (mem_runs hw).1 (h w hw)

/-- What is cut off in front has no runs. -/
theorem runs_append_left (h : ∀ c ∈ t, cut c) (u : Text) : runs cut (t ++ u) = runs cut u := by
  induction t with
  | nil => rfl
  | cons c rest ih =>
    obtain ⟨hc, hrest⟩ := List.forall_mem_cons.1 h
    rw [List.cons_append, runs_cons hc, ih hrest]

theorem runs_append_right (t : Text) (h : ∀ c ∈ u, cut c) : runs cut (t ++ u) = runs cut t := by
  cases u with
  | nil => rw [List.append_nil]
  | cons c rest =>
    obtain ⟨hc, hrest⟩ := List.forall_mem_cons.1 h
    rw [runs_append_cons hc, runs_eq_nil_iff.2 hrest, List.append_nil]

/-- A text that is not cut at its first character starts with its first run. -/
theorem runs_cons_uncut (hc : cut c = false) (t : Text) :
    ∃ w others, runs cut (c :: t) = (c :: w) :: others := by
  rw [runs, pieces, hc, if_neg Bool.false_ne_true]
  cases pieces cut t with
  | nil => exact ⟨[], [], rfl⟩
  | cons piece others => exact ⟨piece, _, rfl⟩

/-! ### Joined texts -/

theorem join_singleton : join [glue] [t] = t := List.intercalate_singleton

theorem join_cons (h : ws ≠ []) : join [glue] (w :: ws) = w ++ glue :: join [glue] ws := by
  rw [join, List.intercalate_cons_of_ne_nil h, List.append_assoc]
  rfl

/-- The pieces of a joined text are the texts that were joined. -/
theorem pieces_join (hglue : cut glue) (h : ∀ w ∈ ws, ∀ c ∈ w, cut c = false) (hne : ws ≠ []) :
    pieces cut (join [glue] ws) = ws := by
  rw [pieces_eq_splitOnP]
  induction ws with
  | nil => exact absurd rfl hne
  | cons w rest ih =>
    obtain ⟨hw, hrest⟩ := List.forall_mem_cons.1 h
    by_cases hlast : rest = []
    · rw [hlast, join_singleton, List.splitOnP_eq_singleton hw]
    · rw [join_cons hlast, List.splitOnP_append_cons _ _ hglue, List.splitOnP_eq_singleton hw,
        ih hrest hlast, List.singleton_append]

theorem runs_join (hglue : cut glue) (h : ∀ w ∈ ws, w ≠ [] ∧ ∀ c ∈ w, cut c = false) :
    runs cut (join [glue] ws) = ws := by
  by_cases hne : ws = []
  · rw [hne]
    rfl
  · rw [runs, pieces_join hglue (fun w hw => (h w hw).2) hne, List.filter_eq_self]
    intro w hw
    simpa using (h w hw).1

/-- A test that the glue does not pass takes no notice of it. -/
theorem filter_join (h : p glue = false) (ws : List Text) :
    (join [glue] ws).filter p = ws.flatten.filter p := by
  induction ws with
  | nil => rfl
  | cons w rest ih =>
    by_cases hlast : rest = []
    · rw [hlast, join_singleton, List.flatten_singleton]
    · rw [join_cons hlast, List.filter_append, List.filter_cons_of_neg (by simp [h]), ih,
        List.flatten_cons, List.filter_append]

theorem length_join (glue : Char) (ws : List Text) :
    (join [glue] ws).length = ws.flatten.length + (ws.length - 1) := by
  induction ws with
  | nil => rfl
  | cons w rest ih =>
    by_cases hlast : rest = []
    · simp [hlast, join_singleton]
    · have hpos : 0 < rest.length := List.length_pos_iff.2 hlast
      rw [join_cons hlast, List.length_append, List.length_cons, ih, List.flatten_cons,
        List.length_append, List.length_cons]
      omega

/-- With fewer texts, what is joined gets no longer. -/
theorem length_join_le (h : us.Sublist ws) :
    (join [glue] us).length ≤ (join [glue] ws).length := by
  have hflatten := h.flatten.length_le
  have hlength := h.length_le
  rw [length_join, length_join]
  omega

/-- The end of a joined text is the end of the last text. -/
theorem getLast?_join (h : ∀ w ∈ ws, w ≠ []) :
    (join [glue] ws).getLast? = ws.getLast?.bind List.getLast? := by
  induction ws with
  | nil => rfl
  | cons w rest ih =>
    obtain ⟨-, hrest⟩ := List.forall_mem_cons.1 h
    by_cases hlast : rest = []
    · rw [hlast, join_singleton]
      rfl
    · obtain ⟨last, hmem⟩ := Option.ne_none_iff_exists'.1 (mt List.getLast?_eq_none_iff.1 hlast)
      obtain ⟨c, hc⟩ := Option.ne_none_iff_exists'.1
        (mt List.getLast?_eq_none_iff.1 (hrest last (List.mem_of_getLast? hmem)))
      have hjoin : c ∈ (join [glue] rest).getLast? := by
        rw [ih hrest, hmem]
        exact hc
      have hend : (w :: rest).getLast? = some last := List.mem_getLast?_cons hmem
      have hglue : (glue :: join [glue] rest).getLast? = some c := List.mem_getLast?_cons hjoin
      rw [join_cons hlast, List.getLast?_append, hglue, hend]
      exact hc.symm

/-! ### Squeezed texts -/

/-- Behind a part that is not cut, and in a run without one, squeezing puts the glue between the
runs. -/
theorem append_squeezeFrom (hw : ∀ c ∈ w, cut c = false)
    (hlast : ∀ c ∈ t.getLast?, cut c = false) :
    w ++ squeezeFrom cut glue w.isEmpty t = join [glue] (runs cut (w ++ t)) := by
  -- the part grows up to the next cut, and behind the cut there is none
  induction t generalizing w with
  | nil =>
    rw [squeezeFrom, List.append_nil]
    by_cases hne : w = []
    · rw [hne]
      rfl
    · rw [runs_single hw hne, join_singleton]
  | cons d rest ih =>
    have hrest : ∀ c ∈ rest.getLast?, cut c = false :=
      fun c hc => hlast c (List.mem_getLast?_cons hc)
    rw [squeezeFrom]
    by_cases hd : cut d
    · have hbehind := ih (w := []) (List.forall_mem_nil _) hrest
      rw [if_pos hd, runs_append_cons hd]
      by_cases hne : w = []
      · rw [hne]
        exact hbehind
      · have hmore : runs cut rest ≠ [] := by
          rw [Ne, runs_eq_nil_iff]
          intro hall
          cases hend : rest.getLast? with
          | none =>
            rw [List.getLast?_eq_none_iff.1 hend] at hlast
            simp [hlast d rfl] at hd
          | some c =>
            have hc := hall c (List.mem_of_getLast? hend)
            rw [hrest c hend] at hc
            cases hc
        rw [if_neg (by simpa using hne), runs_single hw hne, List.singleton_append, join_cons hmore]
        exact congrArg (fun behind => w ++ glue :: behind) hbehind
    · have hgrown : ∀ c ∈ w ++ [d], cut c = false := by
        rw [List.forall_mem_append]
        exact ⟨hw, by simpa using hd⟩
      have hbehind := ih hgrown hrest
      have hne : (w ++ [d]).isEmpty = false := by simp
      rw [hne, List.append_assoc, List.append_assoc] at hbehind
      rw [if_neg hd]
      exact hbehind

/-- A text is squeezed part by part. -/
theorem squeezeFrom_append (cut : Char → Bool) (glue : Char) (inRun : Bool) (t : Text) :
    ∃ run, ∀ u, squeezeFrom cut glue inRun (t ++ u) =
      squeezeFrom cut glue inRun t ++ squeezeFrom cut glue run u := by
  induction t generalizing inRun with
  | nil => exact ⟨inRun, fun u => by rw [squeezeFrom]; rfl⟩
  | cons c rest ih =>
    by_cases hc : cut c
    · obtain ⟨run, hrun⟩ := ih true
      refine ⟨run, fun u => ?_⟩
      cases inRun <;> simp [squeezeFrom, hc, hrun]
    · obtain ⟨run, hrun⟩ := ih false
      exact ⟨run, fun u => by simp [squeezeFrom, hc, hrun]⟩

/-- A text that is not cut at its first character is squeezed like one behind no run. -/
theorem squeezeFrom_cons_uncut (hc : cut c = false) (inRun : Bool) (t : Text) :
    squeezeFrom cut glue inRun (c :: t) = c :: squeezeFrom cut glue false t := by
  rw [squeezeFrom, hc, if_neg Bool.false_ne_true]

/-! ### Trimmed texts -/

theorem exists_trim_around (t : Text) : ∃ before after, t = before ++ trim t ++ after ∧
    (∀ c ∈ before, isBlank c) ∧ ∀ c ∈ after, isBlank c := by
  refine ⟨t.takeWhile isBlank, (t.dropWhile isBlank).rtakeWhile isBlank, ?_,
    fun c hc => List.mem_takeWhile_imp hc, fun c hc => List.mem_rtakeWhile_imp hc⟩
  rw [trim_eq, List.append_assoc, List.rdropWhile_append_rtakeWhile,
    List.takeWhile_append_dropWhile]

/-- Blanks around a text add no words. -/
theorem words_trim (t : Text) : words (trim t) = words t := by
  obtain ⟨before, after, ht, hbefore, hafter⟩ := exists_trim_around t
  conv => rhs; rw [ht]
  rw [words_eq_runs, words_eq_runs, runs_append_right _ hafter, runs_append_left hbefore]

section

variable (hcut : ∀ c, cut c → isBlank c)
include hcut

theorem uncut_of_not_blank (h : isBlank c = false) : cut c = false := by
  rw [← Bool.not_eq_true]
  intro hyes
  rw [hcut c hyes] at h
  cases h

/-- Squeezing a trimmed text joins its runs. -/
theorem Trimmed.squeeze_eq_join (h : Trimmed t) :
    squeeze cut glue t = join [glue] (runs cut t) := by
  cases t with
  | nil => rfl
  | cons c rest =>
    have hc : cut c = false := uncut_of_not_blank hcut (h.head c rfl)
    have hrest : ∀ d ∈ rest.getLast?, cut d = false :=
      fun d hd => uncut_of_not_blank hcut (h.last d (List.mem_getLast?_cons hd))
    have hjoin : [c] ++ squeezeFrom cut glue false rest = join [glue] (runs cut ([c] ++ rest)) :=
      append_squeezeFrom (by simpa using hc) hrest
    rw [squeeze, squeezeFrom_cons_uncut hc]
    exact hjoin

theorem Trimmed.squeeze (h : Trimmed t) : Trimmed (squeeze cut glue t) := by
  constructor
  · cases t with
    | nil => simp [Text.squeeze, squeezeFrom]
    | cons c rest =>
      rw [Text.squeeze, squeezeFrom_cons_uncut (uncut_of_not_blank hcut (h.head c rfl))]
      exact h.head
  · rcases List.eq_nil_or_concat t with rfl | ⟨before, c, rfl⟩
    · simp [Text.squeeze, squeezeFrom]
    · have hc : isBlank c = false := h.last c (by simp)
      obtain ⟨run, hrun⟩ := squeezeFrom_append cut glue false before
      rw [Text.squeeze, List.concat_eq_append, hrun,
        squeezeFrom_cons_uncut (uncut_of_not_blank hcut hc), squeezeFrom]
      simpa using hc

/-- Where the glue and what it stands for are blanks, squeezing and trimming may change places. -/
theorem trim_squeeze (hglue : isBlank glue) (t : Text) :
    trim (squeeze cut glue t) = squeeze cut glue (trim t) := by
  obtain ⟨before, after, ht, hbefore, hafter⟩ := exists_trim_around t
  have htrimmed := trimmed_trim t
  have hblank {run : Bool} {u : Text} (hu : ∀ c ∈ u, isBlank c) :
      ∀ c ∈ squeezeFrom cut glue run u, isBlank c := by
    intro c hc
    rcases mem_of_squeezeFrom hc with rfl | hc
    · exact hglue
    · exact hu c hc
  cases htrim : trim t with
  | nil =>
    rw [squeeze, squeeze, squeezeFrom, trim_eq_nil_iff]
    exact hblank (trim_eq_nil_iff.1 htrim)
  | cons c rest =>
    rw [htrim] at ht htrimmed
    -- the blanks around the text are squeezed by themselves
    obtain ⟨run, hrun⟩ := squeezeFrom_append cut glue false before
    obtain ⟨run', hrun'⟩ := squeezeFrom_append cut glue run (c :: rest)
    have hc : cut c = false := uncut_of_not_blank hcut (htrimmed.head c rfl)
    have hsqueezed : squeeze cut glue t = squeezeFrom cut glue false before ++
        squeeze cut glue (c :: rest) ++ squeezeFrom cut glue run' after := by
      rw [ht, squeeze, squeeze, List.append_assoc, hrun, hrun', squeezeFrom_cons_uncut hc,
        squeezeFrom_cons_uncut hc, List.append_assoc]
    have hne : squeeze cut glue (c :: rest) ≠ [] := by
      rw [squeeze, squeezeFrom_cons_uncut hc]
      exact List.cons_ne_nil _ _
    rw [hsqueezed]
    exact (htrimmed.squeeze hcut).trim_around hne (hblank hbefore) (hblank hafter)

end

end AddressBook.Text
