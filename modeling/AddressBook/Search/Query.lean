import AddressBook.Search.Predicate
import AddressBook.Search.Token

/-!
From search text to a condition. A text that starts with the word `empty` asks
for missing fields; a text with an operator word is read clause by clause; any
other text is looked for as it stands. Reading never fails: a clause that is not
complete is dropped.
-/
namespace AddressBook.Search

/-- An operator word of the search language. -/
inductive Operator where
  | and
  | or
  | not
deriving DecidableEq

/-- The operator that a token is, in any letter case. -/
def Operator.ofToken? (token : Text) : Option Operator :=
  let word := Text.upper token
  if word == Text.ofString "AND" then some .and
  else if word == Text.ofString "OR" then some .or
  else if word == Text.ofString "NOT" then some .not
  else none

/-- A term of an operator query, with the operator before it. -/
structure QueryClause where
  operator : Option Operator
  term : Text
deriving DecidableEq

/-- The term that a token asks for: the token without its quotes. -/
def unquoted (token : Text) : Text := token.filter (· != '"')

/-- Tokens paired into clauses: an operator takes the next token as its term, whatever it is; an
operator at the end is dropped. -/
def clauses : List Text → List QueryClause
  | [] => []
  | [token] =>
    match Operator.ofToken? token with
    | some _ => []
    | none => [⟨none, unquoted token⟩]
  | token :: next :: rest =>
    match Operator.ofToken? token with
    | some op => ⟨some op, unquoted next⟩ :: clauses rest
    | none => ⟨none, unquoted token⟩ :: clauses (next :: rest)

/-- The conditions collected so far, last first, and one more clause. A conjunction narrows the
last condition and is dropped when there is none; every other clause is a condition of its own. -/
def collect (entries : List Predicate) (clause : QueryClause) : List Predicate :=
  match clause.operator, entries with
  | some .and, [] => []
  | some .and, last :: earlier => .all [last, .mentions clause.term] :: earlier
  | some .not, _ => .not (.mentions clause.term) :: entries
  | _, _ => .mentions clause.term :: entries

/-- The conjunction of conditions that are listed last first. -/
def conjoin (entries : List Predicate) : Predicate :=
  match entries with
  | [] => .everything
  | [p] => p
  | _ => .all entries.reverse

/-- The condition that clauses ask for. -/
def ofClauses (cs : List QueryClause) : Predicate := conjoin (cs.foldl collect [])

/-- The word that asks for missing fields, with the space behind it. -/
def emptyWord : Text := Text.ofString "empty "

/-- The condition that a field is missing; a name that is no field asks for any missing field. -/
def missing (field : Text) : Predicate :=
  if searchable.contains field then .isNull field else .any (searchable.map .isNull)

/-- The condition that a search text asks for. -/
def compile (query : Text) : Predicate :=
  let plain := Text.lower (Text.trim query)
  if emptyWord.isPrefixOf plain then missing (Text.trim (plain.drop emptyWord.length))
  else match tokens query with
    | [] => .everything
    | ts =>
      if ts.any fun t => (Operator.ofToken? t).isSome then ofClauses (clauses ts)
      else .mentions (Text.trim query)

end AddressBook.Search
