import AddressBook.Proofs.Search.Operators
import AddressBook.Proofs.Search.Scan

/-!
Clauses written as a search text, each term between quotes, and read back. The quotes keep the text
of a term from being taken for an operator, for two tokens, or for the word that asks for missing
fields.
-/
namespace AddressBook.Search

/-- A term between quotes. -/
def quoted (term : Text) : Text := '"' :: (term ++ ['"'])

/-- A clause as text: its operator and a space, if it has one, and its term between quotes. -/
def QueryClause.written (clause : QueryClause) : Text :=
  match clause.operator with
  | none => quoted clause.term
  | some op => op.word ++ ' ' :: quoted clause.term

/-- Clauses as a search text, with single spaces between them. -/
def written (cs : List QueryClause) : Text := Text.join [' '] (cs.map QueryClause.written)

/-- The conditions so far, in order, and one more clause: a conjunction joins the last condition, or
is dropped if there is none; any other clause is a condition of its own. -/
def extend (entries : List Predicate) (clause : QueryClause) : List Predicate :=
  match clause.operator with
  | some .and =>
    match entries.getLast? with
    | none => []
    | some last => entries.dropLast ++ [.all [last, .mentions clause.term]]
  | some .not => entries ++ [.not (.mentions clause.term)]
  | _ => entries ++ [.mentions clause.term]

/-- Conditions in order as one: all of them, if there are several. -/
def together : List Predicate → Predicate
  | [] => .everything
  | [p] => p
  | ps => .all ps

/-- The condition into which clauses fold from left to right. -/
def folded (cs : List QueryClause) : Predicate := together (cs.foldl extend [])

variable {term : Text} {cs : List QueryClause} {clause : QueryClause} {entries : List Predicate}
  {op : Operator}

/-! ### Folded clauses -/

theorem reverse_collect : (collect entries clause).reverse = extend entries.reverse clause := by
  obtain ⟨operator, term⟩ := clause
  cases operator with
  | none => simp [collect, extend]
  | some op =>
    cases op with
    | and =>
      cases entries with
      | nil => rfl
      | cons last earlier => simp [collect, extend]
    | or => simp [collect, extend]
    | not => simp [collect, extend]

theorem reverse_foldl_collect :
    (cs.foldl collect entries).reverse = cs.foldl extend entries.reverse := by
  induction cs generalizing entries with
  | nil => rfl
  | cons clause rest ih => rw [List.foldl_cons, List.foldl_cons, ih, reverse_collect]

theorem together_of_two {ps : List Predicate} (h : 2 ≤ ps.length) : together ps = .all ps := by
  match ps with
  | [] => simp at h
  | [p] => simp at h
  | p :: q :: rest => rfl

theorem conjoin_eq_together : conjoin entries = together entries.reverse := by
  match entries with
  | [] => rfl
  | [p] => rfl
  | p :: q :: rest => exact (together_of_two (by simp)).symm

theorem ofClauses_eq_folded : ofClauses cs = folded cs := by
  rw [ofClauses, conjoin_eq_together, reverse_foldl_collect, folded]
  rfl

/-! ### Written clauses -/

/-- The tokens of a written clause. -/
def QueryClause.words (clause : QueryClause) : List Text :=
  match clause.operator with
  | none => [quoted clause.term]
  | some op => [op.word, quoted clause.term]

theorem QueryClause.words_ne_nil : clause.words ≠ [] := by
  unfold QueryClause.words
  split <;> simp

theorem QueryClause.join_words : Text.join [' '] clause.words = clause.written := by
  unfold QueryClause.words QueryClause.written
  split
  case h_1 => exact Text.join_singleton
  case h_2 => rw [Text.join_cons (List.cons_ne_nil _ _), Text.join_singleton]

theorem join_append {ts us : List Text} (hts : ts ≠ []) (hus : us ≠ []) :
    Text.join [' '] (ts ++ us) = Text.join [' '] ts ++ ' ' :: Text.join [' '] us := by
  induction ts with
  | nil => exact absurd rfl hts
  | cons t rest ih =>
    by_cases hrest : rest = []
    · rw [hrest, List.singleton_append, Text.join_cons hus, Text.join_singleton]
    · have hne : rest ++ us ≠ [] := List.append_ne_nil_of_left_ne_nil hrest us
      rw [List.cons_append, Text.join_cons hne, ih hrest, Text.join_cons hrest, List.append_assoc]
      rfl

/-- A written query is its tokens with single spaces between them. -/
theorem written_eq (cs : List QueryClause) :
    written cs = Text.join [' '] (cs.flatMap QueryClause.words) := by
  induction cs with
  | nil => rfl
  | cons clause rest ih =>
    rw [written] at ih
    rw [written, List.map_cons, List.flatMap_cons]
    by_cases hrest : rest = []
    · rw [hrest, List.map_nil, List.flatMap_nil, List.append_nil, Text.join_singleton,
        QueryClause.join_words]
    · have hwords : rest.flatMap QueryClause.words ≠ [] := by
        obtain ⟨next, others, rfl⟩ := List.exists_cons_of_ne_nil hrest
        exact List.append_ne_nil_of_left_ne_nil QueryClause.words_ne_nil _
      rw [Text.join_cons (by simpa using hrest), ih, join_append QueryClause.words_ne_nil hwords,
        QueryClause.join_words]

theorem unbroken_quoted (h : '"' ∉ term) : Unbroken (quoted term) := .phrase h .nil

theorem unbroken_of_plain {t : Text} (h : ∀ c ∈ t, c ≠ '"' ∧ Text.isBlank c = false) :
    Unbroken t := by
  induction t with
  | nil => exact .nil
  | cons c rest ih =>
    obtain ⟨⟨hquote, hblank⟩, hrest⟩ := List.forall_mem_cons.1 h
    exact .plain hquote hblank (ih hrest)

theorem unbroken_word (op : Operator) : Unbroken op.word := by
  apply unbroken_of_plain
  intro c hc
  obtain ⟨-, hquote, hblank, -⟩ := Operator.letter hc
  exact ⟨hquote, hblank⟩

theorem unquoted_quoted (h : '"' ∉ term) : unquoted (quoted term) = term := by
  have hkeep : term.filter (· != '"') = term := by
    rw [List.filter_eq_self]
    intro c hc
    simpa using fun heq : c = '"' => h (heq ▸ hc)
  simp [unquoted, quoted, hkeep]

theorem spells_word (op : Operator) : op.Spells op.word := by
  cases op <;> decide

/-- Between quotes nothing is an operator. -/
theorem not_spells_quoted (op : Operator) : ¬ op.Spells (quoted term) := by
  intro h
  have hquote : '"' ∈ op.word := h ▸ List.mem_map_of_mem (f := Char.toUpper) (List.mem_cons_self ..)
  exact (Operator.letter hquote).2.1 rfl

theorem tokens_written (h : ∀ clause ∈ cs, '"' ∉ clause.term) :
    tokens (written cs) = cs.flatMap QueryClause.words := by
  rw [written_eq]
  apply tokens_join
  intro token htoken
  obtain ⟨clause, hclause, htoken⟩ := List.mem_flatMap.1 htoken
  have hquoted : Unbroken (quoted clause.term) ∧ quoted clause.term ≠ [] :=
    ⟨unbroken_quoted (h clause hclause), List.cons_ne_nil _ _⟩
  unfold QueryClause.words at htoken
  split at htoken
  case h_1 =>
    rw [List.mem_singleton.1 htoken]
    exact hquoted
  case h_2 op _ =>
    rcases List.mem_cons.1 htoken with rfl | htoken
    · exact ⟨unbroken_word op, by cases op <;> decide⟩
    · rw [List.mem_singleton.1 htoken]
      exact hquoted

/-- The tokens of written clauses pair into these clauses. -/
theorem clauses_words (h : ∀ clause ∈ cs, '"' ∉ clause.term) :
    clauses (cs.flatMap QueryClause.words) = cs := by
  induction cs with
  | nil => rfl
  | cons clause rest ih =>
    obtain ⟨hterm, hrest⟩ := List.forall_mem_cons.1 h
    obtain ⟨operator, term⟩ := clause
    rw [List.flatMap_cons]
    cases operator with
    | none =>
      have hwords : QueryClause.words ⟨none, term⟩ = [quoted term] := rfl
      rw [hwords, List.singleton_append, clauses_bare not_spells_quoted, ih hrest,
        unquoted_quoted hterm]
    | some op =>
      have hwords : QueryClause.words ⟨some op, term⟩ = [op.word, quoted term] := rfl
      rw [hwords, List.cons_append, List.singleton_append, clauses_operator (spells_word op),
        ih hrest, unquoted_quoted hterm]

theorem hasOperator_written (h : ∀ clause ∈ cs, '"' ∉ clause.term)
    (hop : ∃ clause ∈ cs, clause.operator ≠ none) : HasOperator (written cs) := by
  obtain ⟨⟨operator, term⟩, hclause, hoperator⟩ := hop
  obtain ⟨op, rfl⟩ := Option.ne_none_iff_exists'.1 hoperator
  refine ⟨op.word, ?_, op, spells_word op⟩
  rw [tokens_written h]
  exact List.mem_flatMap.2 ⟨_, hclause, List.mem_cons_self ..⟩

theorem written_cons (clause : QueryClause) (cs : List QueryClause) :
    ∃ behind, written (clause :: cs) = clause.written ++ behind := by
  rw [written, List.map_cons]
  by_cases hcs : cs = []
  · exact ⟨[], by rw [hcs, List.map_nil, Text.join_singleton, List.append_nil]⟩
  · exact ⟨_, Text.join_cons (by simpa using hcs)⟩

/-- A written query starts with a quote or with the first letter of an operator. -/
theorem not_asksMissing_written : ¬ AsksMissing (written cs) := by
  cases cs with
  | nil => decide
  | cons clause rest =>
    obtain ⟨behind, hwritten⟩ := written_cons clause rest
    obtain ⟨operator, term⟩ := clause
    rw [hwritten]
    cases operator with
    | none => exact not_asksMissing (c := '"') (by decide) (by decide) (by decide)
    | some op =>
      cases op with
      | and => exact not_asksMissing (c := 'A') (by decide) (by decide) (by decide)
      | or => exact not_asksMissing (c := 'O') (by decide) (by decide) (by decide)
      | not => exact not_asksMissing (c := 'N') (by decide) (by decide) (by decide)

/-- Clauses written with their terms between quotes are read back as the condition into which they
fold, whatever their terms are. -/
theorem compile_written (hop : ∃ clause ∈ cs, clause.operator ≠ none)
    (hterms : ∀ clause ∈ cs, '"' ∉ clause.term) : compile (written cs) = folded cs := by
  rw [compile_operator not_asksMissing_written (hasOperator_written hterms hop),
    tokens_written hterms, clauses_words hterms, ofClauses_eq_folded]

/-- Clauses whose terms look like an operator, like nothing, like the word that asks for missing
fields, and like two tokens. -/
def awkward : List QueryClause := [⟨some .and, ['x']⟩, ⟨none, Text.ofString "AND"⟩, ⟨some .and, []⟩,
  ⟨some .not, Text.ofString "empty \n"⟩, ⟨some .or, Text.ofString "a b"⟩]

theorem compile_written_awkward : (∃ clause ∈ awkward, clause.operator ≠ none) ∧
    (∀ clause ∈ awkward, '"' ∉ clause.term) ∧
    written awkward =
      Text.ofString "AND \"x\" \"AND\" AND \"\" NOT \"empty \n\" OR \"a b\"" ∧
    compile (written awkward) = .all [.all [.mentions (Text.ofString "AND"), .mentions []],
      .not (.mentions (Text.ofString "empty \n")), .mentions (Text.ofString "a b")] :=
  ⟨by decide, by decide, by decide, compile_written (by decide) (by decide)⟩

end AddressBook.Search
