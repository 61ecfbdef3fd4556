import AddressBook.Proofs.Search.Scan

/-!
Patterns of characters, and the search for them from left to right. Where a pattern leaves a choice,
the ways to read it are tried in order, longer repetitions first, and one is given up when what
follows does not fit. The tokens of a text are what such a search finds for the token pattern.
-/
namespace AddressBook.Search

/-- A pattern of characters. -/
inductive Pattern where
  /-- One character that passes a test. -/
  | one (test : Char → Bool)
  /-- Two patterns, one behind the other. -/
  | both (first second : Pattern)
  /-- One of two patterns; the first one is tried first. -/
  | either (first second : Pattern)
  /-- A pattern any number of times, as often as possible. -/
  | many (body : Pattern)

namespace Pattern

/-- What `next` makes of the text behind the pattern, in the first way to read the pattern at the
front of a text for which `next` succeeds. A repetition goes on only if it has read something. -/
def read : Pattern → (Text → Option Text) → Text → Option Text
  | one _, _, [] => none
  | one test, next, c :: rest => if test c then next rest else none
  | both first second, next, t => first.read (fun rest => second.read next rest) t
  | either first second, next, t => (first.read next t).or (second.read next t)
  | many body, next, t =>
    (body.read (fun rest => if rest.length < t.length then (many body).read next rest else none)
      t).or (next t)
termination_by p _ t => (sizeOf p, t.length)

/-- The finds of a pattern, from left to right and without overlap; finds of no character are left
out. -/
def finds (p : Pattern) : Text → List Text
  | [] => []
  | c :: rest =>
    match p.read some (c :: rest) with
    | some left =>
      if left.length < (c :: rest).length then
        (c :: rest).take ((c :: rest).length - left.length) :: finds p left
      else finds p rest
    | none => finds p rest
termination_by t => t.length
decreasing_by
  all_goals simp only [List.length_cons] at *
  all_goals omega

/-- A pattern at least once. -/
def atLeastOnce (body : Pattern) : Pattern := both body (many body)

/-- One quote. -/
def quote : Pattern := one (· == '"')

/-- A phrase between quotes. -/
def phrase : Pattern := both quote (both (many (one (· != '"'))) quote)

/-- Whether a character is neither a blank nor a quote. -/
def isPlain (c : Char) : Bool := !Text.isBlank c && c != '"'

/-- A part of a token: a run of plain characters, or a phrase. -/
def part : Pattern := either (atLeastOnce (one isPlain)) phrase

/-- A token: one part or more. -/
def token : Pattern := atLeastOnce part

variable {t token rest body : Text} {c : Char} {test : Char → Bool}
  {next : Text → Option Text} {p q : Pattern}

theorem read_one_cons : (one test).read next (c :: rest) = if test c then next rest else none := by
  rw [read]

theorem read_both : (both p q).read next t = p.read (fun rest => q.read next rest) t := by
  rw [read]

theorem read_either : (either p q).read next t = (p.read next t).or (q.read next t) := by
  rw [read]

theorem read_many : (many p).read next t =
    (p.read (fun rest => if rest.length < t.length then (many p).read next rest else none) t).or
      (next t) := by
  rw [read]

/-! ### Repeated characters -/

theorem read_many_one_nil : (many (one test)).read next [] = next [] := by
  rw [read_many, read, Option.none_or]

theorem read_many_one_cons : (many (one test)).read next (c :: rest) =
    (if test c then (many (one test)).read next rest else none).or (next (c :: rest)) := by
  have hlt : rest.length < (c :: rest).length := Nat.lt_succ_self rest.length
  rw [read_many, read_one_cons, if_pos hlt]

/-- If what follows can be read behind the whole run of characters, no choice is given up. -/
theorem read_many_one (h : (next (t.dropWhile test)).isSome) :
    (many (one test)).read next t = next (t.dropWhile test) := by
  induction t with
  | nil => exact read_many_one_nil
  | cons c rest ih =>
    rw [read_many_one_cons]
    cases htest : test c with
    | true =>
      rw [List.dropWhile_cons_of_pos htest] at h ⊢
      rw [if_pos rfl, ih h, Option.or_of_isSome h]
    | false =>
      rw [List.dropWhile_cons_of_neg (by simp [htest]), if_neg Bool.false_ne_true, Option.none_or]

/-- If what follows can be read nowhere, neither can it be behind a run of characters. -/
theorem read_many_one_none (h : ∀ rest, rest <:+ t → next rest = none) :
    (many (one test)).read next t = none := by
  induction t with
  | nil => rw [read_many_one_nil, h [] List.suffix_rfl]
  | cons c rest ih =>
    have hrest := ih fun behind hbehind => h behind (hbehind.trans (List.suffix_cons c rest))
    rw [read_many_one_cons, hrest, h _ List.suffix_rfl, ite_self, Option.none_or]

/-! ### Parts of tokens -/

theorem read_quote : quote.read next ('"' :: rest) = next rest := by
  rw [quote, read_one_cons]
  rfl

theorem read_quote_none (h : '"' ∉ t) : quote.read next t = none := by
  cases t with
  | nil => rw [quote, read]
  | cons c rest =>
    have hc : c ≠ '"' := Ne.symm (List.ne_of_not_mem_cons h)
    rw [quote, read_one_cons, if_neg (by simpa using hc)]

theorem dropWhile_body (hbody : '"' ∉ body) :
    (body ++ '"' :: rest).dropWhile (· != '"') = '"' :: rest := by
  have hrun : ∀ c ∈ body, (c != '"') = true := by
    intro c hc
    simpa using fun heq : c = '"' => hbody (heq ▸ hc)
  rw [List.dropWhile_append_of_pos hrun]
  rfl

theorem read_phrase (hbody : '"' ∉ body) (h : (next rest).isSome) :
    phrase.read next ('"' :: (body ++ '"' :: rest)) = next rest := by
  have hcloses : quote.read next ((body ++ '"' :: rest).dropWhile (· != '"')) = next rest := by
    rw [dropWhile_body hbody, read_quote]
  rw [phrase, read_both, read_quote, read_both, read_many_one (by rwa [hcloses]), hcloses]

/-- A phrase is not found where no quote closes it. -/
theorem read_phrase_none (h : Stops t) : phrase.read next t = none := by
  cases h with
  | nil => rw [phrase, read_both, read_quote_none (by simp)]
  | @blank c rest hblank =>
    rw [phrase, read_both, quote, read_one_cons, if_neg (by simpa using ne_quote_of_isBlank hblank)]
  | unmatched hrest =>
    rw [phrase, read_both, read_quote, read_both]
    exact read_many_one_none fun behind hbehind =>
      read_quote_none fun hmem => hrest (hbehind.subset hmem)

theorem isPlain_of_stops (h : Stops (c :: rest)) : isPlain c = false := by
  cases h with
  | blank hblank => simp [isPlain, hblank]
  | unmatched _ => rfl

theorem read_word_none (h : isPlain c = false) :
    (atLeastOnce (one isPlain)).read next (c :: rest) = none := by
  rw [atLeastOnce, read_both, read_one_cons, h, if_neg Bool.false_ne_true]

/-- Where no token goes on, there is no part of one. -/
theorem read_part_none (h : Stops t) : part.read next t = none := by
  rw [part, read_either, read_phrase_none h, Option.or_none]
  cases t with
  | nil => rw [atLeastOnce, read_both, read]
  | cons c rest => exact read_word_none (isPlain_of_stops h)

theorem Unbroken.dropWhile_isPlain (h : Unbroken token) : Unbroken (token.dropWhile isPlain) := by
  induction h with
  | nil => exact .nil
  | @plain c rest hquote hblank _ ih =>
    rwa [List.dropWhile_cons_of_pos (by simp [isPlain, hquote, hblank])]
  | phrase hbody h _ =>
    rw [List.dropWhile_cons_of_neg (by decide)]
    exact .phrase hbody h

theorem dropWhile_isPlain_append (h : Stops rest) :
    (token ++ rest).dropWhile isPlain = token.dropWhile isPlain ++ rest := by
  rw [List.dropWhile_append]
  split
  case isTrue hnil =>
    rw [List.isEmpty_iff.1 hnil, List.nil_append]
    cases rest with
    | nil => rfl
    | cons c rest => exact List.dropWhile_cons_of_neg (by simp [isPlain_of_stops h])
  case isFalse => rfl

/-- A part is read off the front of an unbroken text, and leaves an unbroken text behind. -/
theorem read_part (h : Unbroken token) (hne : token ≠ []) (hstops : Stops rest) :
    ∃ left, Unbroken left ∧ left.length < token.length ∧
      ∀ next : Text → Option Text, (next (left ++ rest)).isSome →
        part.read next (token ++ rest) = next (left ++ rest) := by
  cases h with
  | nil => exact absurd rfl hne
  | @plain c token hquote hblank h =>
    have hplain : isPlain c = true := by simp [isPlain, hquote, hblank]
    have hlength := (List.dropWhile_sublist isPlain (l := token)).length_le
    refine ⟨token.dropWhile isPlain, Unbroken.dropWhile_isPlain h, Nat.lt_succ_of_le hlength, ?_⟩
    intro next hnext
    rw [← dropWhile_isPlain_append hstops] at hnext ⊢
    rw [part, read_either, atLeastOnce, read_both, List.cons_append, read_one_cons, if_pos hplain,
      read_many_one hnext, Option.or_of_isSome hnext]
  | @phrase body left hbody h =>
    refine ⟨left, h, ?_, ?_⟩
    · simp
      omega
    · intro next hnext
      rw [List.cons_append, List.append_assoc, List.cons_append, part, read_either,
        read_word_none (by rfl), Option.none_or, read_phrase hbody hnext]

/-! ### Tokens -/

/-- The search reads an unbroken text to its end. -/
theorem read_many_part (h : Unbroken token) (hstops : Stops rest) :
    (many part).read some (token ++ rest) = some rest := by
  induction hn : token.length using Nat.strong_induction_on generalizing token with
  | _ n ih =>
    by_cases hne : token = []
    · rw [hne, List.nil_append, read_many, read_part_none hstops, Option.none_or]
    obtain ⟨left, hleft, hlt, hread⟩ := read_part h hne hstops
    have hrest := ih _ (hn ▸ hlt) hleft rfl
    have hshorter : (left ++ rest).length < (token ++ rest).length := by
      rw [List.length_append, List.length_append]
      omega
    rw [read_many, hread _ (by rw [if_pos hshorter, hrest]; rfl), if_pos hshorter, hrest]
    rfl

theorem read_token (h : Unbroken token) (hne : token ≠ []) (hstops : Stops rest) :
    Pattern.token.read some (token ++ rest) = some rest := by
  obtain ⟨left, hleft, -, hread⟩ := read_part h hne hstops
  have hrest := read_many_part hleft hstops
  rw [Pattern.token, atLeastOnce, read_both, hread _ (by rw [hrest]; rfl), hrest]

theorem read_token_none (h : Stops t) : Pattern.token.read next t = none := by
  rw [Pattern.token, atLeastOnce, read_both, read_part_none h]

theorem finds_append (hne : token ≠ []) (hread : p.read some (token ++ rest) = some rest) :
    p.finds (token ++ rest) = token :: p.finds rest := by
  cases token with
  | nil => exact absurd rfl hne
  | cons c token =>
    have hlength : (c :: (token ++ rest)).length = (c :: token).length + rest.length := by
      rw [← List.cons_append, List.length_append]
    have hlt : rest.length < (c :: (token ++ rest)).length := by
      rw [hlength, List.length_cons]
      omega
    have htake : (c :: (token ++ rest)).take ((c :: (token ++ rest)).length - rest.length) =
        c :: token := by
      rw [hlength, Nat.add_sub_cancel]
      exact List.take_left
    rw [List.cons_append] at hread ⊢
    rw [finds, hread]
    simp only [if_pos hlt, htake]

end Pattern

/-- The tokens of a text are what a search for the token pattern finds. -/
theorem tokens_eq_finds (query : Text) : tokens query = Pattern.token.finds query := by
  induction query using token_induction with
  | nil =>
    rw [Pattern.finds]
    rfl
  | stop c rest hstops ih =>
    rw [tokens_stop hstops, ih, Pattern.finds, Pattern.read_token_none hstops]
  | token token rest htoken hne hstops ih =>
    rw [tokens_unbroken htoken hne hstops, ih,
      Pattern.finds_append hne (Pattern.read_token htoken hne hstops)]

end AddressBook.Search
