import AddressBook.Proofs.Search.Pattern
import AddressBook.Proofs.Text.Runs

/-!
Tokens of a search text, place by place. A text is cut at every blank that no pair of quotes
encloses and at the quote without a partner; the tokens are what is left between the cuts.
-/
namespace AddressBook.Search

variable {query before rest : Text} {c : Char}

/-! ### Cuts -/

/-- Whether an odd number of quotes stand in a text, so that the last one is an opening quote. -/
def isOpen (t : Text) : Bool := t.count '"' % 2 == 1

/-- Whether a place lies between an opening quote and the quote that closes it. -/
def isQuoted (query : Text) (i : Nat) : Bool :=
  isOpen (query.take i) && (query.drop (i + 1)).contains '"'

/-- Whether the quote at a place has no partner: the number of quotes is odd, and it is the last. -/
def isUnmatched (query : Text) (i : Nat) : Bool :=
  isOpen query && !(query.drop (i + 1)).contains '"'

/-- Whether a text is cut at a place: at a blank that is not quoted, and at the unmatched quote. -/
def isCut (query : Text) : Char × Nat → Bool
  | (c, i) => if c == '"' then isUnmatched query i else Text.isBlank c && !isQuoted query i

/-- The non-empty texts that are left of a text when it is cut. -/
def runs (query : Text) : List Text :=
  ((query.zipIdx.splitOnP (isCut query)).map fun run => run.map Prod.fst).filter (! ·.isEmpty)

/-- The characters of a text at which it is not cut. -/
def uncut (query : Text) : Text :=
  (query.zipIdx.filter fun place => !isCut query place).map Prod.fst

theorem isOpen_append (h : '"' ∉ rest) : isOpen (before ++ rest) = isOpen before := by
  rw [isOpen, isOpen, List.count_append, List.count_eq_zero.2 h, Nat.add_zero]

theorem isOpen_quote : isOpen (before ++ ['"']) = !isOpen before := by
  have hcount : (before ++ ['"']).count '"' = before.count '"' + 1 := by simp
  rw [isOpen, isOpen, hcount]
  rcases Nat.mod_two_eq_zero_or_one (before.count '"') with h | h
  · have hnext : (before.count '"' + 1) % 2 = 1 := by omega
    rw [h, hnext]
    rfl
  · have hnext : (before.count '"' + 1) % 2 = 0 := by omega
    rw [h, hnext]
    rfl

/-- Whether a text is cut at a place is told by what stands before it and behind it. -/
theorem isCut_middle : isCut (before ++ c :: rest) (c, before.length) =
    if c = '"' then !isOpen before && !rest.contains '"'
    else Text.isBlank c && !(isOpen before && rest.contains '"') := by
  have htake : (before ++ c :: rest).take before.length = before := List.take_left
  have hdrop : (before ++ c :: rest).drop (before.length + 1) = rest := by
    rw [List.drop_append, Nat.add_sub_cancel_left]
    simp
  simp only [isCut, isUnmatched, isQuoted, htake, hdrop, beq_iff_eq]
  split
  case isTrue hc =>
    subst hc
    by_cases hcloses : '"' ∈ rest
    · simp [hcloses]
    · have hsplit : before ++ '"' :: rest = before ++ ['"'] ++ rest := by simp
      rw [hsplit, isOpen_append hcloses, isOpen_quote]
  case isFalse => rfl

/-- One step of the scan: at a cut the token in progress ends, at any other place it goes on. -/
theorem scan_cons (before : Text) (c : Char) (rest : Text) :
    scan (isOpen before && (c :: rest).contains '"') (c :: rest) =
      let next := scan (isOpen (before ++ [c]) && rest.contains '"') rest
      if isCut (before ++ c :: rest) (c, before.length) then ([], settle next)
      else (c :: next.1, next.2) := by
  rw [isCut_middle]
  by_cases hquote : c = '"'
  · subst hquote
    rw [isOpen_quote]
    by_cases hcloses : '"' ∈ rest
    · cases isOpen before
      · simp [scan_opening hcloses, hcloses]
      · simp [scan_closing]
    · cases isOpen before
      · simp [scan_unmatched hcloses, hcloses, tokens]
      · simp [scan_closing]
  · have hcloses : (c :: rest).contains '"' = rest.contains '"' := by simp [Ne.symm hquote]
    rw [isOpen_append (by simp [Ne.symm hquote]), hcloses]
    cases isOpen before && rest.contains '"'
    · cases hblank : Text.isBlank c
      · simp [scan_plain hquote hblank, hquote]
      · simp [scan_blank hblank, hquote, tokens]
    · simp [scan_inside hquote, hquote]

theorem settle_eq_filter {scanned : Text × List Text} {later : List Text}
    (h : later.filter (! ·.isEmpty) = scanned.2) :
    settle scanned = (scanned.1 :: later).filter (! ·.isEmpty) := by
  obtain ⟨token, after⟩ := scanned
  subst h
  cases token <;> rfl

/-- The scan from any place on: the text in front of the first cut, and the others. -/
theorem scan_runs (before rest : Text) :
    ∃ later, ((rest.zipIdx before.length).splitOnP (isCut (before ++ rest))).map
          (fun run => run.map Prod.fst) =
        (scan (isOpen before && rest.contains '"') rest).1 :: later ∧
      later.filter (! ·.isEmpty) = (scan (isOpen before && rest.contains '"') rest).2 := by
  -- A character goes from behind the place to before it; whether the scan is between quotes is told
  -- by both sides.
  induction rest generalizing before with
  | nil => exact ⟨[], by simp [scan]⟩
  | cons c rest ih =>
    obtain ⟨later, hruns, hlater⟩ := ih (before ++ [c])
    rw [List.append_assoc, List.singleton_append, List.length_append, List.length_singleton]
      at hruns
    rw [scan_cons, List.zipIdx_cons, List.splitOnP_cons_eq_if_modifyHead]
    cases isCut (before ++ c :: rest) (c, before.length) with
    | true => exact ⟨_, congrArg ([] :: ·) hruns, (settle_eq_filter hlater).symm⟩
    | false =>
      refine ⟨later, ?_, hlater⟩
      cases hsplit : (rest.zipIdx (before.length + 1)).splitOnP (isCut (before ++ c :: rest)) with
      | nil => exact absurd hsplit (List.splitOnP_ne_nil _ _)
      | cons run others =>
        rw [hsplit] at hruns
        obtain ⟨hrun, hothers⟩ := List.cons.inj hruns
        exact congrArg₂ List.cons (congrArg (c :: ·) hrun) hothers

/-- The tokens of a text are what its cuts leave of it. -/
theorem tokens_eq_runs (query : Text) : tokens query = runs query := by
  obtain ⟨later, hruns, hlater⟩ := scan_runs [] query
  have hsplit : (query.zipIdx.splitOnP (isCut query)).map (fun run => run.map Prod.fst) =
      (scan false query).1 :: later := hruns
  rw [tokens, runs, hsplit]
  exact settle_eq_filter hlater

/-- The tokens hold the characters at which the text is not cut, in their order. -/
theorem flatten_runs (query : Text) : (runs query).flatten = uncut query := by
  rw [runs, List.flatten_filter_not_isEmpty, ← List.map_flatten, Text.flatten_splitOnP,
    uncut]

/-- The tokens of a text are what a search for the token pattern finds, and what is left of the text
when it is cut at the blanks that are not quoted and at the unmatched quote. Each has an even number
of quotes, no other character is lost, and with single spaces between them they are read again. -/
theorem tokens_exact (query : Text) :
    tokens query = Pattern.token.finds query ∧
    tokens query = runs query ∧
    (∀ token ∈ tokens query, Even (token.count '"')) ∧
    (tokens query).flatten = uncut query ∧
    tokens (Text.join [' '] (tokens query)) = tokens query := by
  refine ⟨tokens_eq_finds query, tokens_eq_runs query, fun token htoken => ?_, ?_, ?_⟩
  · exact (unbroken_of_mem_tokens token htoken).1.even_count
  · rw [tokens_eq_runs, flatten_runs]
  · exact tokens_join unbroken_of_mem_tokens

example : tokens (Text.ofString "a\"b c\"\"\"\t\"d e") =
    [Text.ofString "a\"b c\"\"\"", ['d'], ['e']] := by decide

end AddressBook.Search
