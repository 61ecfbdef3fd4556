import AddressBook.Proofs.Text.Runs
import AddressBook.Search.Token
import Mathlib.Algebra.Group.Nat.Even

/-!
How a search text is scanned for its tokens: one equation for each kind of character, and the texts
that the scan passes in one piece.
-/
namespace AddressBook.Search

/-- A text that the scan passes without ending a token: characters that are neither blank nor a
quote, and phrases between two quotes. -/
inductive Unbroken : Text → Prop where
  | nil : Unbroken []
  | plain {c : Char} {rest : Text} (hquote : c ≠ '"') (hblank : Text.isBlank c = false)
    (h : Unbroken rest) : Unbroken (c :: rest)
  | phrase {body rest : Text} (hbody : '"' ∉ body) (h : Unbroken rest) :
    Unbroken ('"' :: (body ++ '"' :: rest))

/-- A text at whose front no token goes on: it is empty, or starts with a blank or with a quote
that has no partner. -/
inductive Stops : Text → Prop where
  | nil : Stops []
  | blank {c : Char} {rest : Text} (h : Text.isBlank c) : Stops (c :: rest)
  | unmatched {rest : Text} (h : '"' ∉ rest) : Stops ('"' :: rest)

variable {t token rest body : Text} {ts : List Text} {c : Char}

/-! ### One character of the scan -/

theorem ne_quote_of_isBlank (h : Text.isBlank c) : c ≠ '"' := by
  rintro rfl
  exact absurd h (by decide)

theorem scan_closing :
    scan true ('"' :: rest) = ('"' :: (scan false rest).1, (scan false rest).2) := rfl

theorem scan_inside (h : c ≠ '"') :
    scan true (c :: rest) = (c :: (scan true rest).1, (scan true rest).2) := by
  have hopen : (c != '"') = true := by simpa using h
  rw [scan, hopen]

theorem scan_opening (h : '"' ∈ rest) :
    scan false ('"' :: rest) = ('"' :: (scan true rest).1, (scan true rest).2) := by
  simp [scan, h]

theorem scan_unmatched (h : '"' ∉ rest) : scan false ('"' :: rest) = ([], tokens rest) := by
  simp [scan, tokens, h]

theorem scan_blank (h : Text.isBlank c) : scan false (c :: rest) = ([], tokens rest) := by
  simp [scan, tokens, h, ne_quote_of_isBlank h]

theorem scan_plain (hquote : c ≠ '"') (hblank : Text.isBlank c = false) :
    scan false (c :: rest) = (c :: (scan false rest).1, (scan false rest).2) := by
  simp [scan, hquote, hblank]

/-! ### Unbroken texts -/

theorem scan_body (hbody : '"' ∉ body) : scan true (body ++ '"' :: rest) =
    (body ++ '"' :: (scan false rest).1, (scan false rest).2) := by
  induction body with
  | nil => exact scan_closing
  | cons c body ih =>
    have hc : c ≠ '"' := Ne.symm (List.ne_of_not_mem_cons hbody)
    rw [List.cons_append, scan_inside hc, ih (List.not_mem_of_not_mem_cons hbody)]
    rfl

/-- An unbroken text goes to the token in progress as a whole. -/
theorem Unbroken.scan (h : Unbroken token) : scan false (token ++ rest) =
    (token ++ (scan false rest).1, (scan false rest).2) := by
  induction h with
  | nil => rfl
  | plain hquote hblank _ ih =>
    rw [List.cons_append, scan_plain hquote hblank, ih]
    rfl
  | phrase hbody _ ih =>
    rw [List.cons_append, scan_opening (by simp), List.append_assoc, List.cons_append,
      scan_body hbody, ih]
    simp

theorem Unbroken.even_count (h : Unbroken token) : Even (token.count '"') := by
  induction h with
  | nil => exact Even.zero
  | plain hquote _ _ ih => rwa [List.count_cons_of_ne hquote]
  | phrase hbody _ ih =>
    rw [List.count_cons_self, List.count_append, List.count_eq_zero.2 hbody, List.count_cons_self,
      Nat.zero_add]
    exact ih.add (by decide : Even 2)

theorem Stops.scan (h : Stops (c :: rest)) : scan false (c :: rest) = ([], tokens rest) := by
  cases h with
  | blank h => exact scan_blank h
  | unmatched h => exact scan_unmatched h

theorem Stops.scan_fst (h : Stops rest) : (Search.scan false rest).1 = [] := by
  cases rest with
  | nil => rfl
  | cons c rest => rw [h.scan]

theorem tokens_stop (h : Stops (c :: rest)) : tokens (c :: rest) = tokens rest := by
  rw [tokens, h.scan]
  rfl

/-- An unbroken text up to where it cannot go on is a token. -/
theorem tokens_unbroken (h : Unbroken token) (hne : token ≠ []) (hstops : Stops rest) :
    tokens (token ++ rest) = token :: tokens rest := by
  have hrest : (Search.scan false rest).2 = tokens rest := by
    cases rest with
    | nil => rfl
    | cons c rest => rw [tokens_stop hstops, hstops.scan]
  rw [tokens, h.scan, hstops.scan_fst, List.append_nil, hrest]
  cases token with
  | nil => exact absurd rfl hne
  | cons c token => rfl

/-- Every text starts with an unbroken text up to where that cannot go on. -/
theorem exists_unbroken (t : Text) :
    ∃ token rest, t = token ++ rest ∧ Unbroken token ∧ Stops rest := by
  -- A phrase is passed as a whole, so the induction is on the length.
  induction hn : t.length using Nat.strong_induction_on generalizing t with
  | _ n ih =>
    cases t with
    | nil => exact ⟨[], [], rfl, .nil, .nil⟩
    | cons c rest =>
      by_cases hblank : Text.isBlank c
      · exact ⟨[], c :: rest, rfl, .nil, .blank hblank⟩
      by_cases hquote : c = '"'
      · subst hquote
        by_cases hcloses : '"' ∈ rest
        · obtain ⟨body, behind, hsplit, hbody⟩ := List.eq_append_cons_of_mem hcloses
          have hlt : behind.length < n := by
            rw [← hn, hsplit]
            simp
            omega
          obtain ⟨token, after, rfl, htoken, hstops⟩ := ih _ hlt behind rfl
          exact ⟨'"' :: (body ++ '"' :: token), after, by simp [hsplit], .phrase hbody htoken,
            hstops⟩
        · exact ⟨[], '"' :: rest, rfl, .nil, .unmatched hcloses⟩
      · have hlt : rest.length < n := by simp [← hn]
        obtain ⟨token, after, rfl, htoken, hstops⟩ := ih _ hlt rest rfl
        exact ⟨c :: token, after, rfl, .plain hquote (by simpa using hblank) htoken, hstops⟩

/-- Texts by their tokens: what holds of the empty text, and is kept when a cut or a token is put
in front, holds of every text. -/
theorem token_induction {motive : Text → Prop} (nil : motive [])
    (stop : ∀ c rest, Stops (c :: rest) → motive rest → motive (c :: rest))
    (token : ∀ token rest, Unbroken token → token ≠ [] → Stops rest → motive rest →
      motive (token ++ rest)) (t : Text) : motive t := by
  induction hn : t.length using Nat.strong_induction_on generalizing t with
  | _ n ih =>
    obtain ⟨front, rest, rfl, hfront, hstops⟩ := exists_unbroken t
    cases front with
    | nil =>
      cases rest with
      | nil => exact nil
      | cons c rest => exact stop c rest hstops (ih _ (by simp [← hn]) rest rfl)
    | cons c front =>
      have hlt : rest.length < n := by
        rw [← hn, List.length_append, List.length_cons]
        omega
      exact token _ rest hfront (List.cons_ne_nil c front) hstops (ih _ hlt rest rfl)

/-- Tokens are unbroken, and none is empty. -/
theorem unbroken_of_mem_tokens : ∀ token ∈ tokens t, Unbroken token ∧ token ≠ [] := by
  induction t using token_induction with
  | nil => simp [tokens, scan, settle]
  | stop c rest hstops ih => rwa [tokens_stop hstops]
  | token token rest htoken hne hstops ih =>
    rw [tokens_unbroken htoken hne hstops]
    exact List.forall_mem_cons.2 ⟨⟨htoken, hne⟩, ih⟩

/-- Unbroken texts with single spaces between them are the tokens of the whole. -/
theorem tokens_join (h : ∀ token ∈ ts, Unbroken token ∧ token ≠ []) :
    tokens (Text.join [' '] ts) = ts := by
  induction ts with
  | nil => rfl
  | cons token rest ih =>
    obtain ⟨⟨htoken, hne⟩, hrest⟩ := List.forall_mem_cons.1 h
    by_cases hlast : rest = []
    · have htokens := tokens_unbroken htoken hne .nil
      rw [List.append_nil] at htokens
      rw [hlast, Text.join_singleton, htokens]
      rfl
    · have hspace : Text.isBlank ' ' := by decide
      rw [Text.join_cons hlast, tokens_unbroken htoken hne (.blank hspace),
        tokens_stop (.blank hspace), ih hrest]

end AddressBook.Search
