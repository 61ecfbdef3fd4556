import AddressBook.Proofs.Search.Like

/-!
What a pattern of the `LIKE` operator says about a text, and that the store decides it. A term that
is escaped and put between wildcards fits the texts in which it occurs, and no others.
-/
namespace AddressBook.Search.Like

/-- A pattern fits a text: `%` stands for any run of characters, `_` for any one character, `/` for
the character behind it, and every other character for itself. -/
inductive Fits : Text → Text → Prop
  | nothing : Fits [] []
  | run (before : Text) {p s : Text} (h : Fits p s) : Fits ('%' :: p) (before ++ s)
  | any (x : Char) {p s : Text} (h : Fits p s) : Fits ('_' :: p) (x :: s)
  | escaped (c : Char) {p s : Text} (h : Fits p s) : Fits ('/' :: c :: p) (c :: s)
  | literal {c : Char} (hc : c ≠ '%' ∧ c ≠ '_' ∧ c ≠ '/') {p s : Text} (h : Fits p s) :
    Fits (c :: p) (c :: s)

variable {p s t u : Text}

theorem mem_suffixes : u ∈ suffixes s ↔ u <:+ s := by
  induction s with
  | nil => simp [suffixes]
  | cons c rest ih => rw [suffixes, List.mem_cons, List.suffix_cons_iff, ih]

theorem accepts_run_iff : accepts ('%' :: p) s ↔ ∃ u, u <:+ s ∧ accepts p u := by
  rw [accepts, List.any_eq_true]
  simp only [mem_suffixes]

theorem Fits.accepts (h : Fits p s) : accepts p s := by
  induction h with
  | nothing => rfl
  | run before _ ih => exact accepts_run_iff.2 ⟨_, List.suffix_append before _, ih⟩
  | any x _ ih => rwa [Like.accepts]
  | escaped c _ ih => simpa [accepts_escaped] using ih
  | literal hc _ ih => simpa [accepts_literal hc] using ih

theorem fits_of_accepts (h : accepts p s) : Fits p s := by
  -- on the length of the pattern, since `/` takes two of its characters
  induction hn : p.length using Nat.strong_induction_on generalizing p s with
  | _ n ih =>
    cases p with
    | nil =>
      have hs : s = [] := by simpa [accepts] using h
      exact hs ▸ .nothing
    | cons c p =>
      have hlt : p.length < n := by simp [← hn]
      by_cases hrun : c = '%'
      · subst hrun
        obtain ⟨u, ⟨before, rfl⟩, hu⟩ := accepts_run_iff.1 h
        exact .run before (ih _ hlt hu rfl)
      by_cases hany : c = '_'
      · subst hany
        cases s with
        | nil => simp [accepts] at h
        | cons x rest =>
          rw [accepts] at h
          exact .any x (ih _ hlt h rfl)
      by_cases hslash : c = '/'
      · subst hslash
        cases p with
        | nil => simp [accepts] at h
        | cons d p =>
          rw [accepts_escaped] at h
          cases s with
          | nil => cases h
          | cons x rest =>
            obtain ⟨hd, hrest⟩ := (Bool.and_eq_true _ _).mp h
            rw [← beq_iff_eq.1 hd]
            exact .escaped d (ih _ (Nat.lt_of_succ_lt hlt) hrest rfl)
      · have hc : c ≠ '%' ∧ c ≠ '_' ∧ c ≠ '/' := ⟨hrun, hany, hslash⟩
        rw [accepts_literal hc] at h
        cases s with
        | nil => cases h
        | cons x rest =>
          obtain ⟨hx, hrest⟩ := (Bool.and_eq_true _ _).mp h
          rw [← beq_iff_eq.1 hx]
          exact .literal hc (ih _ hlt hrest rfl)

/-- The store decides whether a pattern fits a text. -/
theorem accepts_iff_fits : accepts p s ↔ Fits p s := ⟨fits_of_accepts, Fits.accepts⟩

theorem replace_singleton (c : Char) (new t : Text) :
    Text.replace [c] new t = t.flatMap fun d => if d = c then new else [d] := by
  unfold Text.replace
  induction t with
  | nil => rfl
  | cons d rest ih =>
    rw [Text.replaceFrom, List.flatMap_cons, List.isPrefixOf_cons_cons, List.length_singleton, ih]
    by_cases hd : d = c
    · simp [hd]
    · simp [hd, Ne.symm hd]

/-- A term is escaped by escaping one kind of character after the other, `/` before the others. -/
theorem escape_eq_replace (t : Text) : escape t =
    Text.replace ['_'] ['/', '_'] (Text.replace ['%'] ['/', '%'] (Text.replace ['/'] ['/', '/'] t)) := by
  simp only [replace_singleton, List.flatMap_assoc, escape]
  apply List.flatMap_congr
  intro c _
  by_cases hslash : c = '/'
  · simp [hslash]
  by_cases hrun : c = '%'
  · simp [hrun]
  by_cases hany : c = '_'
  · simp [hany]
  · simp [hslash, hrun, hany]

/-- An escaped term between wildcards fits the texts that have the term as a contiguous part, and
the store finds it in these. Escaping goes over the term once for each kind of character. -/
theorem around_escape_fits_iff (t s : Text) :
    (Fits (around (escape t)) s ↔ t <:+: s) ∧
    (Dialect.plain.finds (escape t) s = true ↔ t <:+: s) ∧
    escape t = Text.replace ['_'] ['/', '_']
      (Text.replace ['%'] ['/', '%'] (Text.replace ['/'] ['/', '/'] t)) := by
  have hfinds : contains (escape t) s ↔ t <:+: s := by
    rw [contains_escape, Text.occursIn_iff]
  exact ⟨accepts_iff_fits.symm.trans hfinds, hfinds, escape_eq_replace t⟩

end AddressBook.Search.Like
