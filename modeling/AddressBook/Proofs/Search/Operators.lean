import AddressBook.Proofs.Text.Blank
import AddressBook.Proofs.Text.Upper
import AddressBook.Search.Query

/-!
Operator words, and the way a search text is read. A token is an operator exactly if it is one of
the three words in some mixture of ASCII capitals and small letters: no other letter of Unicode
turns into them when it is raised.
-/
namespace AddressBook.Search

variable {token term query rest : Text} {ts : List Text} {c u : Char} {op : Operator}

/-! ### Operator words -/

/-- An operator as it is written in capitals. -/
def Operator.word : Operator → Text
  | .and => Text.ofString "AND"
  | .or => Text.ofString "OR"
  | .not => Text.ofString "NOT"

/-- Whether a token is the word of an operator, in any letter case. -/
def Operator.Spells (op : Operator) (token : Text) : Prop := token.map Char.toUpper = op.word

instance : Decidable (op.Spells token) := inferInstanceAs (Decidable (_ = _))

/-- The letters of operator words are native, and no quote, no blank and no e is among them. -/
theorem Operator.letter (h : u ∈ op.word) :
    Text.IsNative u ∧ u ≠ '"' ∧ Text.isBlank u = false ∧ u ≠ 'E' := by
  have hall : op.word.all (fun u =>
      decide (Text.IsNative u ∧ u ≠ '"' ∧ Text.isBlank u = false ∧ u ≠ 'E')) = true := by
    cases op <;> decide
  simpa only [decide_eq_true_eq] using List.all_eq_true.1 hall u h

theorem Operator.spells_iff : op.Spells token ↔ Text.upper token = op.word :=
  (Text.upper_eq_iff fun _ h => (Operator.letter h).1).symm

theorem Operator.ofToken?_eq_some_iff : Operator.ofToken? token = some op ↔ op.Spells token := by
  rw [Operator.spells_iff]
  have hread (op : Operator) (h : Text.upper token = op.word) : ofToken? token = some op := by
    unfold ofToken?
    rw [h]
    cases op <;> rfl
  constructor
  · intro h
    have hword : ∃ op : Operator, Text.upper token = op.word := by
      unfold ofToken? at h
      dsimp only at h
      split at h
      case isTrue heq => exact ⟨.and, beq_iff_eq.1 heq⟩
      case isFalse =>
        split at h
        case isTrue heq => exact ⟨.or, beq_iff_eq.1 heq⟩
        case isFalse =>
          split at h
          case isTrue heq => exact ⟨.not, beq_iff_eq.1 heq⟩
          case isFalse => cases h
    obtain ⟨other, hother⟩ := hword
    rw [hread other hother, Option.some.injEq] at h
    rw [hother, h]
  · exact hread op

theorem Operator.ofToken?_eq_none_iff :
    Operator.ofToken? token = none ↔ ∀ op : Operator, ¬ op.Spells token := by
  simp only [← Operator.ofToken?_eq_some_iff]
  exact Option.eq_none_iff_forall_ne_some

/-! ### Pairs of tokens -/

theorem clauses_trailing (h : op.Spells token) : clauses [token] = [] := by
  rw [clauses, Operator.ofToken?_eq_some_iff.2 h]

theorem clauses_operator (h : op.Spells token) :
    clauses (token :: term :: ts) = ⟨some op, unquoted term⟩ :: clauses ts := by
  rw [clauses, Operator.ofToken?_eq_some_iff.2 h]

theorem clauses_bare (h : ∀ op : Operator, ¬ op.Spells token) :
    clauses (token :: ts) = ⟨none, unquoted token⟩ :: clauses ts := by
  have hnone := Operator.ofToken?_eq_none_iff.2 h
  cases ts with
  | nil =>
    have hone : clauses [token] = [⟨none, unquoted token⟩] := by rw [clauses, hnone]
    exact hone
  | cons next ts => rw [clauses, hnone]

/-! ### Three ways to read a search text -/

/-- Whether a search text asks for missing fields. -/
def AsksMissing (query : Text) : Prop := emptyWord <+: Text.lower (Text.trim query)

/-- Whether some token of a search text is an operator. -/
def HasOperator (query : Text) : Prop := ∃ token ∈ tokens query, ∃ op : Operator, op.Spells token

instance : Decidable (AsksMissing query) :=
  inferInstanceAs (Decidable (_ <+: _))

theorem any_operator_iff :
    (tokens query).any (fun t => (Operator.ofToken? t).isSome) = true ↔ HasOperator query := by
  simp only [List.any_eq_true, Option.isSome_iff_exists, Operator.ofToken?_eq_some_iff, HasOperator]

instance : Decidable (HasOperator query) := decidable_of_iff _ any_operator_iff

theorem compile_missing (h : AsksMissing query) : compile query =
    missing (Text.trim ((Text.lower (Text.trim query)).drop emptyWord.length)) := by
  have hprefix : emptyWord.isPrefixOf (Text.lower (Text.trim query)) = true :=
    List.isPrefixOf_iff_prefix.2 h
  rw [compile]
  exact if_pos hprefix

theorem compile_of_not_missing (h : ¬ AsksMissing query) : compile query =
    match tokens query with
    | [] => .everything
    | ts =>
      if ts.any fun t => (Operator.ofToken? t).isSome then ofClauses (clauses ts)
      else .mentions (Text.trim query) := by
  have hprefix : ¬ emptyWord.isPrefixOf (Text.lower (Text.trim query)) = true :=
    fun hprefix => h (List.isPrefixOf_iff_prefix.1 hprefix)
  rw [compile]
  exact if_neg hprefix

theorem compile_nothing (hmissing : ¬ AsksMissing query) (h : tokens query = []) :
    compile query = .everything := by
  rw [compile_of_not_missing hmissing, h]

theorem compile_operator (hmissing : ¬ AsksMissing query) (h : HasOperator query) :
    compile query = ofClauses (clauses (tokens query)) := by
  rw [compile_of_not_missing hmissing]
  split
  case h_1 hnil =>
    obtain ⟨token, hmem, -⟩ := h
    rw [hnil] at hmem
    cases hmem
  case h_2 => exact if_pos (any_operator_iff.2 h)

theorem compile_plain (hmissing : ¬ AsksMissing query) (h : ¬ HasOperator query)
    (hne : tokens query ≠ []) : compile query = .mentions (Text.trim query) := by
  rw [compile_of_not_missing hmissing]
  split
  case h_1 hnil => exact absurd hnil hne
  case h_2 => exact if_neg fun hany => h (any_operator_iff.1 hany)

/-- A text that starts with an ASCII character other than the letter e does not start with the word
that asks for missing fields. -/
theorem not_emptyWord_lower (hascii : c.toNat < 0x80) (he : c.toUpper ≠ 'E') :
    ¬ emptyWord <+: Text.lower (c :: rest) := by
  intro h
  obtain ⟨behind, hlower⟩ := Text.lower_cons_ascii (t := rest) hascii
  rw [hlower] at h
  have hsmall : 'e' = c.toLower := (List.cons_prefix_cons.1 h).1
  have hall : ∀ n < 0x80, 'e' = (Char.ofNat n).toLower → (Char.ofNat n).toUpper = 'E' := by
    decide +kernel
  have hlarge := hall c.toNat hascii
  rw [Char.ofNat_toNat] at hlarge
  exact he (hlarge hsmall)

theorem not_asksMissing (hblank : Text.isBlank c = false) (hascii : c.toNat < 0x80)
    (he : c.toUpper ≠ 'E') : ¬ AsksMissing (c :: rest) := by
  obtain ⟨behind, htrim⟩ := Text.trim_cons (t := rest) hblank
  rw [AsksMissing, htrim]
  exact not_emptyWord_lower hascii he

end AddressBook.Search
