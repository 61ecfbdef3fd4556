import AddressBook.Search.Clause

/-!
The text of a clause in a stored query. Search terms never enter the text: they
are bound as numbered parameters.
-/
namespace AddressBook.Search

/-- The text of a clause, and the values bound to its parameters. -/
structure Statement where
  text : String
  parameters : List (String × Text)

/-- The numbers of the next parameters of either kind. -/
structure Numbering where
  /-- The next text that is compared as it stands, or in place of null. -/
  coalesce : Nat := 1
  /-- The next search term. -/
  term : Nat := 1

/-- The constant that a column is, if it is one. -/
def Column.constant? : Column → Option Constant
  | constant c => some c
  | _ => none

/-- The numbers behind a comparison of a column: a constant is a parameter itself. -/
def Numbering.next (n : Numbering) (c : Column) : Numbering :=
  ⟨n.coalesce + (if c.constant?.isSome then 2 else 1), n.term + 1⟩

namespace Clause

/-- The written name of a column. -/
def written (c : Column) : String := Column.tableName ++ "." ++ c.title

/-- The name of a parameter with a number. -/
def coalesceName (i : Nat) : String := "coalesce_" ++ toString i

/-- The name of the parameter of a search term with a number. -/
def termName (k : Nat) : String := "lower_" ++ toString k

/-- The place of a parameter in a text. -/
def place (name : String) : String := "%(" ++ name ++ ")s::VARCHAR"

/-- The text of a comparison. -/
def comparisonText (c : Column) (n : Numbering) : String :=
  let first := place (coalesceName n.coalesce)
  let operands :=
    if c.constant?.isSome then first ++ ", " ++ place (coalesceName (n.coalesce + 1))
    else written c ++ ", " ++ first
  "(lower(coalesce(" ++ operands ++ ")) LIKE '%%' || " ++ place (termName n.term)
    ++ " || '%%' ESCAPE '/')"

/-- The parameters of a comparison with an escaped text. -/
def comparisonParameters (c : Column) (escaped : Text) (n : Numbering) : List (String × Text) :=
  (match c.constant? with
  | some k =>
    [(coalesceName n.coalesce, Text.ofString k.text), (coalesceName (n.coalesce + 1), [])]
  | none => [(coalesceName n.coalesce, [])]) ++ [(termName n.term, escaped)]

/-- Texts that are not empty, with a word between neighbours. -/
def joined (word : String) (texts : List String) : String :=
  word.intercalate (texts.filter (! ·.isEmpty))

mutual

/-- The text of a clause, and the numbering behind it. -/
def text (n : Numbering) : Clause → String × Numbering
  | const b | fixed b => (if b then "true" else "false", n)
  | isNull c negated => (written c ++ if negated then " IS NOT NULL" else " IS NULL", n)
  | like c _ negated => ((if negated then "NOT " else "") ++ comparisonText c n, n.next c)
  | all parts =>
    let (ts, n) := texts n true parts
    (joined " AND " ts, n)
  | any parts =>
    let (ts, n) := texts n false parts
    (joined " OR " ts, n)
  | not part =>
    let (t, n) := text n part
    ("NOT " ++ (if part.isEmptyList then "" else "(" ++ t ++ ")"), n)

/-- The texts of several clauses; `wrap` puts disjunctions in parentheses. -/
def texts (n : Numbering) (wrap : Bool) : List Clause → List String × Numbering
  | [] => ([], n)
  | c :: rest =>
    let (t, n) := text n c
    let (ts, n) := texts n wrap rest
    ((if wrap && c.isDisjunction then "(" ++ t ++ ")" else t) :: ts, n)

end

/-- The parameters of comparisons. -/
def parameters (n : Numbering) : List (Column × Text) → List (String × Text)
  | [] => []
  | (c, escaped) :: rest =>
    comparisonParameters c escaped n ++ parameters (n.next c) rest

/-- The clause written out, with its parameters numbered from one. -/
def statement (c : Clause) : Statement := ⟨(text {} c).1, parameters {} c.bound⟩

end Clause
end AddressBook.Search
