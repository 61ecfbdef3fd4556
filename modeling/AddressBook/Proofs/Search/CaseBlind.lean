import AddressBook.Proofs.Search.Agreement
import AddressBook.Proofs.Search.Meaning
import AddressBook.Proofs.Search.Scan
import AddressBook.Proofs.Text.Letters

/-!
Searches that differ only in the case of ASCII letters. Such search texts have the same tokens but
for case, the same operators among them and the same clauses but for the case of their terms. So
their conditions are nested alike, and are tried call by call with the same outcome, also on records
that differ in the same way.
-/
namespace AddressBook.Search

open Text

/-- Whether the searchable fields of two records differ in nothing but the case of ASCII letters. -/
def Alike (record record' : Record) : Prop :=
  ∀ field : Field, (record field.label).map asciiLower = (record' field.label).map asciiLower

/-- A clause with the ASCII letters of its term in small. -/
def QueryClause.asciiLower (clause : QueryClause) : QueryClause :=
  ⟨clause.operator, Text.asciiLower clause.term⟩

variable {token query query' term term' : Text} {ts : List Text} {cs cs' : List QueryClause}
  {record record' : Record} {op : Operator} {p p' : Predicate} {ps ps' : List Predicate}

/-! ### Tokens -/

theorem toLower_ne_quote {c : Char} (h : c ≠ '"') : c.toLower ≠ '"' := by
  have hsame : (c.toLower == '"') = (c == '"') := toLower_beq (by decide) c
  rw [← bne_iff_ne, bne, hsame]
  simpa using h

theorem quote_not_mem_asciiLower {t : Text} (h : '"' ∉ t) : '"' ∉ asciiLower t := by
  intro hmem
  obtain ⟨c, hc, hquote⟩ := List.mem_map.1 hmem
  exact toLower_ne_quote (fun heq => h (heq ▸ hc)) hquote

theorem Unbroken.asciiLower (h : Unbroken token) : Unbroken (asciiLower token) := by
  induction h with
  | nil => exact .nil
  | @plain c rest hquote hblank _ ih =>
    exact .plain (toLower_ne_quote hquote) (by rw [isBlank_toLower, hblank]) ih
  | @phrase body rest hbody _ ih =>
    have hsplit : Text.asciiLower ('"' :: (body ++ '"' :: rest)) =
        '"' :: (Text.asciiLower body ++ '"' :: Text.asciiLower rest) := by
      simp [Text.asciiLower]
    rw [hsplit]
    exact .phrase (quote_not_mem_asciiLower hbody) ih

theorem Stops.asciiLower {t : Text} (h : Stops t) : Stops (asciiLower t) := by
  cases h with
  | nil => exact .nil
  | blank h => exact .blank (by rwa [isBlank_toLower])
  | unmatched h => exact .unmatched (quote_not_mem_asciiLower h)

theorem tokens_asciiLower (t : Text) : tokens (asciiLower t) = (tokens t).map asciiLower := by
  induction t using token_induction with
  | nil => rfl
  | stop c rest hstops ih =>
    rw [tokens_stop hstops, ← ih]
    exact tokens_stop hstops.asciiLower
  | token token rest htoken hne hstops ih =>
    have hsplit : asciiLower (token ++ rest) = asciiLower token ++ asciiLower rest :=
      List.map_append
    have hne' : asciiLower token ≠ [] := by simpa [asciiLower] using hne
    rw [hsplit, tokens_unbroken htoken.asciiLower hne' hstops.asciiLower, ih,
      tokens_unbroken htoken hne hstops, List.map_cons]

/-! ### Clauses -/

theorem spells_asciiLower : op.Spells (asciiLower token) ↔ op.Spells token := by
  have hupper : Char.toUpper ∘ Char.toLower = Char.toUpper := funext toUpper_toLower
  rw [Operator.Spells, asciiLower, List.map_map, hupper]
  rfl

theorem unquoted_asciiLower (token : Text) :
    unquoted (asciiLower token) = asciiLower (unquoted token) := by
  have hkeep : (fun c => c != '"') ∘ Char.toLower = fun c => c != '"' := by
    funext c
    exact congrArg (! ·) (toLower_beq (d := '"') (by decide) c)
  rw [unquoted, unquoted, asciiLower, asciiLower, List.filter_map, hkeep]

theorem Paired.asciiLower (h : Paired ts cs) :
    Paired (ts.map asciiLower) (cs.map QueryClause.asciiLower) := by
  induction h with
  | nil => exact .nil
  | trailing h => exact .trailing (spells_asciiLower.2 h)
  | @operator token term rest cs op h _ ih =>
    have hterm : QueryClause.asciiLower ⟨some op, unquoted term⟩ =
        ⟨some op, unquoted (Text.asciiLower term)⟩ := by
      rw [unquoted_asciiLower]
      rfl
    rw [List.map_cons, List.map_cons, List.map_cons, hterm]
    exact .operator (spells_asciiLower.2 h) ih
  | @bare token rest cs h _ ih =>
    have hterm : QueryClause.asciiLower ⟨none, unquoted token⟩ =
        ⟨none, unquoted (Text.asciiLower token)⟩ := by
      rw [unquoted_asciiLower]
      rfl
    rw [List.map_cons, List.map_cons, hterm]
    exact .bare (fun op hop => h op (spells_asciiLower.1 hop)) ih

theorem clauses_asciiLower (ts : List Text) :
    clauses (ts.map asciiLower) = (clauses ts).map QueryClause.asciiLower :=
  (paired_clauses ts).asciiLower.eq_clauses.symm

/-! ### Search texts -/

theorem asksMissing_congr (h : SameLetters query query') :
    AsksMissing query ↔ AsksMissing query' := by
  rw [AsksMissing, h.trim.lower_eq, AsksMissing]

theorem tokens_congr (h : SameLetters query query') :
    (tokens query).map asciiLower = (tokens query').map asciiLower := by
  rw [← tokens_asciiLower, h, tokens_asciiLower]

theorem tokens_eq_nil_congr (h : SameLetters query query') :
    tokens query = [] ↔ tokens query' = [] := by
  rw [← List.map_eq_nil_iff, tokens_congr h, List.map_eq_nil_iff]

theorem clauses_congr (h : SameLetters query query') :
    List.Forall₂ (fun clause clause' => clause.asciiLower = clause'.asciiLower)
      (clauses (tokens query)) (clauses (tokens query')) := by
  have hclauses : (clauses (tokens query)).map QueryClause.asciiLower =
      (clauses (tokens query')).map QueryClause.asciiLower := by
    rw [← clauses_asciiLower, tokens_congr h, clauses_asciiLower]
  rwa [← List.forall₂_eq_eq_eq, List.forall₂_map_left_iff, List.forall₂_map_right_iff] at hclauses

theorem hasOperator_asciiLower : HasOperator (asciiLower query) ↔ HasOperator query := by
  simp [HasOperator, tokens_asciiLower, spells_asciiLower]

theorem hasOperator_congr (h : SameLetters query query') :
    HasOperator query ↔ HasOperator query' := by
  rw [← hasOperator_asciiLower, h, hasOperator_asciiLower]

/-! ### Records -/

theorem Alike.symm (h : Alike record record') : Alike record' record := fun field => (h field).symm

theorem Alike.isNone_eq (h : Alike record record') (field : Field) :
    (record field.label).isNone = (record' field.label).isNone := by
  simpa using congrArg Option.isNone (h field)

theorem Mentions.alike (h : Mentions record term) (hrecord : Alike record record')
    (hterm : lower term = lower term') : Mentions record' term' := by
  obtain ⟨field, value, hvalue, hinfix⟩ := h
  have hfield := hrecord field
  rw [hvalue, Option.map_some] at hfield
  obtain ⟨value', hvalue', hsame⟩ := Option.map_eq_some_iff.1 hfield.symm
  have hlower : lower value' = lower value := SameLetters.lower_eq hsame
  rw [hterm, ← hlower] at hinfix
  exact ⟨field, value', hvalue', hinfix⟩

theorem mentions_congr (hrecord : Alike record record') (hterm : lower term = lower term') :
    Mentions record term ↔ Mentions record' term' :=
  ⟨fun h => h.alike hrecord hterm, fun h => h.alike hrecord.symm hterm.symm⟩

/-! ### Trials -/

/-- The trials of two conditions, each on a record of its own, come to the same in any room. -/
def TriedAlike (record record' : Record) (p p' : Predicate) : Prop :=
  ∀ room, p.tryOn record room = p'.tryOn record' room

theorem triedAlike_mentions (hrecord : Alike record record') (hterm : lower term = lower term') :
    TriedAlike record record' (.mentions term) (.mentions term') := by
  have hholds : (Predicate.mentions term).holdsFor record =
      (Predicate.mentions term').holdsFor record' := by
    rw [Bool.eq_iff_iff, holdsFor_mentions, holdsFor_mentions]
    exact mentions_congr hrecord hterm
  exact fun room => congrArg (fun b => calling 1 room fun _ => .ok b) hholds

theorem triedAlike_isNull (hrecord : Alike record record') (field : Field) :
    TriedAlike record record' (.isNull field.label) (.isNull field.label) := fun room =>
  congrArg (fun b => calling 1 room fun _ => .ok b) (hrecord.isNone_eq field)

theorem TriedAlike.not (h : TriedAlike record record' p p') :
    TriedAlike record record' (.not p) (.not p') := fun room =>
  congrArg (calling 1 room) (funext fun rest => congrArg (Except.map (! ·)) (h rest))

theorem triedAlike_all (h : List.Forall₂ (TriedAlike record record') ps ps') :
    TriedAlike record record' (.all ps) (.all ps') := by
  have hlists (room : Nat) :
      Predicate.tryAll record room ps = Predicate.tryAll record' room ps' := by
    induction h with
    | nil => rfl
    | cons hfirst _ ih => rw [Predicate.tryAll, Predicate.tryAll, hfirst room, ih]
  exact fun room => congrArg (calling trialCalls room) (funext hlists)

theorem triedAlike_any (h : List.Forall₂ (TriedAlike record record') ps ps') :
    TriedAlike record record' (.any ps) (.any ps') := by
  have hlists (room : Nat) :
      Predicate.tryAny record room ps = Predicate.tryAny record' room ps' := by
    induction h with
    | nil => rfl
    | cons hfirst _ ih => rw [Predicate.tryAny, Predicate.tryAny, hfirst room, ih]
  exact fun room => congrArg (calling trialCalls room) (funext hlists)

theorem triedAlike_missing (hrecord : Alike record record') (name : Text) :
    TriedAlike record record' (missing name) (missing name) := by
  unfold missing
  split
  case isTrue hname =>
    obtain ⟨field, rfl⟩ := Clause.mem_searchable hname
    exact triedAlike_isNull hrecord field
  case isFalse =>
    refine triedAlike_any ?_
    rw [List.forall₂_map_left_iff, List.forall₂_map_right_iff, List.forall₂_same]
    intro label hlabel
    obtain ⟨field, -, rfl⟩ := List.mem_map.1 hlabel
    exact triedAlike_isNull hrecord field

/-- One more clause on each side, with the same operator and a term in another case, leaves
conditions that are tried alike. -/
theorem collect_alike {entries entries' : List Predicate} {clause clause' : QueryClause}
    (hrecord : Alike record record') (h : List.Forall₂ (TriedAlike record record') entries entries')
    (hclause : clause.asciiLower = clause'.asciiLower) :
    List.Forall₂ (TriedAlike record record') (collect entries clause)
      (collect entries' clause') := by
  obtain ⟨operator, term⟩ := clause
  obtain ⟨operator', term'⟩ := clause'
  obtain ⟨rfl, hterm⟩ := QueryClause.mk.inj hclause
  have hmentions : TriedAlike record record' (.mentions term) (.mentions term') :=
    triedAlike_mentions hrecord (SameLetters.lower_eq hterm)
  match operator with
  | some .and =>
    cases h with
    | nil => exact .nil
    | cons hlast hearlier =>
      exact .cons (triedAlike_all (.cons hlast (.cons hmentions .nil))) hearlier
  | some .not => exact .cons hmentions.not h
  | some .or | none => exact .cons hmentions h

theorem foldl_collect_alike {entries entries' : List Predicate} (hrecord : Alike record record')
    (hcs : List.Forall₂ (fun clause clause' => clause.asciiLower = clause'.asciiLower) cs cs')
    (h : List.Forall₂ (TriedAlike record record') entries entries') :
    List.Forall₂ (TriedAlike record record') (cs.foldl collect entries)
      (cs'.foldl collect entries') := by
  induction hcs generalizing entries entries' with
  | nil => exact h
  | cons hclause _ ih => exact ih (collect_alike hrecord h hclause)

theorem triedAlike_conjoin {entries entries' : List Predicate}
    (h : List.Forall₂ (TriedAlike record record') entries entries') :
    TriedAlike record record' (conjoin entries) (conjoin entries') := by
  match h with
  | .nil => exact fun _ => rfl
  | .cons hp .nil => exact hp
  | .cons hp (.cons hq hrest) =>
    exact triedAlike_all (List.rel_reverse (.cons hp (.cons hq hrest)))

/-- Search texts that differ only in the case of ASCII letters are tried with the same outcome on
records that differ only in this way. -/
theorem compile_case_blind (hquery : SameLetters query query') (hrecord : Alike record record')
    (room : Nat) : (compile query).tryOn record room = (compile query').tryOn record' room := by
  have htrim := hquery.trim.lower_eq
  by_cases hmissing : AsksMissing query
  · rw [compile_missing hmissing, compile_missing ((asksMissing_congr hquery).1 hmissing), htrim]
    exact triedAlike_missing hrecord _ room
  have hmissing' := fun h => hmissing ((asksMissing_congr hquery).2 h)
  by_cases hoperator : HasOperator query
  · rw [compile_operator hmissing hoperator,
      compile_operator hmissing' ((hasOperator_congr hquery).1 hoperator)]
    exact triedAlike_conjoin (foldl_collect_alike hrecord (clauses_congr hquery) .nil) room
  have hoperator' := fun h => hoperator ((hasOperator_congr hquery).2 h)
  have htokens := tokens_eq_nil_congr hquery
  by_cases hnil : tokens query = []
  · rw [compile_nothing hmissing hnil, compile_nothing hmissing' (htokens.1 hnil)]
    rfl
  · rw [compile_plain hmissing hoperator hnil,
      compile_plain hmissing' hoperator' (fun h => hnil (htokens.2 h))]
    exact triedAlike_mentions hrecord htrim room

/-- Operators, a term between quotes and letters beside sigmas, in mixed case. -/
def mixed : Text := Text.ofString "aΣ oR \"Not İx\" nOt KΣK"

/-- The same search text in another case. -/
def remixed : Text := Text.ofString "AΣ Or \"nOT İX\" NoT kΣk"

/-- The fields of a record that both search texts find. -/
def found : Fields :=
  { name := some (Text.ofString "not İX"), email := some (Text.ofString "BAΣ") }

/-- The same fields in another case. -/
def refound : Fields :=
  { name := some (Text.ofString "NOT İx"), email := some (Text.ofString "bAΣ") }

theorem compile_case_blind_mixed : SameLetters mixed remixed ∧
    Alike found.lookup refound.lookup ∧
    (compile mixed).tryOn found.lookup usualRoom = .ok true ∧
    (compile remixed).tryOn refound.lookup usualRoom = .ok true := by
  have hquery : SameLetters mixed remixed := by decide
  have hrecord : Alike found.lookup refound.lookup := by
    intro field
    cases field <;> decide
  have hdepth : (compile mixed).depth trialCalls ≤ usualRoom := by decide
  have hmeets : (compile mixed).holdsFor found.lookup = true := by decide +kernel
  have hfound : (compile mixed).tryOn found.lookup usualRoom = .ok true := by
    rw [Predicate.tryOn_of_depth_le hdepth, hmeets]
  exact ⟨hquery, hrecord, hfound, (compile_case_blind hquery hrecord usualRoom).symm.trans hfound⟩

end AddressBook.Search
