import AddressBook.Search.Column
import AddressBook.Search.Dialect
import AddressBook.Search.Holder

/-!
Conditions as clauses of a stored query, and the value of a clause on a contact
in three-valued logic. A null column counts as empty text in a comparison, so
that a comparison is never unknown. A list of no clauses has no text, and puts no
condition where it stands.
-/
namespace AddressBook.Search

/-- A clause of a stored query. -/
inductive Clause where
  /-- A constant, which a list of clauses absorbs. -/
  | const (value : Bool)
  /-- The constant that is left of a list of clauses, which no other list absorbs. -/
  | fixed (value : Bool)
  | isNull (column : Column) (negated : Bool)
  /-- The lower-cased column contains the text whose escaped form is `escaped`. -/
  | like (column : Column) (escaped : Text) (negated : Bool)
  | all (parts : List Clause)
  | any (parts : List Clause)
  | not (part : Clause)

namespace Clause

/-- The parts of a conjunction, or a clause that is none as its own part. -/
def conjuncts : Clause → List Clause
  | all parts => parts
  | c => [c]

/-- The parts of a disjunction, or a clause that is none as its own part. -/
def disjuncts : Clause → List Clause
  | any parts => parts
  | c => [c]

/-- Whether a clause is a given constant. -/
def isConst (value : Bool) : Clause → Bool
  | const b => b == value
  | _ => false

/-- The conjunction of clauses: constants are absorbed, and conjunctions inside are opened. -/
def conj : List Clause → Clause
  | [] => all []
  | parts =>
    if parts.any (isConst false) then fixed false
    else match parts.filter (!isConst true ·) with
      | [] => fixed true
      | [c] => c
      | cs => all (cs.flatMap conjuncts)

/-- The disjunction of clauses: constants are absorbed, and disjunctions inside are opened. -/
def disj : List Clause → Clause
  | [] => any []
  | parts =>
    if parts.any (isConst true) then fixed true
    else match parts.filter (!isConst false ·) with
      | [] => fixed false
      | [c] => c
      | cs => any (cs.flatMap disjuncts)

/-- The negation of a clause, pushed into constants and comparisons only. -/
def negate : Clause → Clause
  | const b | fixed b => const (!b)
  | isNull c n => isNull c (!n)
  | like c t n => like c t (!n)
  | c => not c

/-- The column with a given name, or the complaint that there is none to compare. -/
def column (label : Text) : Except QueryError Column :=
  match Column.ofLabel? label, tableParts.find? label with
  | some c, _ => .ok c
  | none, some _ => .error .incomparable
  | none, none => .error (.unknownColumn label)

/-- The member by which a column is asked whether it is null. -/
def nullMember : String := "is_"

/-- The clause that a column with a given name is null; what is no column cannot be asked. -/
def nullTest (label : Text) : Except QueryError Clause :=
  match Column.ofLabel? label, tableParts.find? label with
  | some (.constant _), _ => .error (.lacking (.value "str") nullMember)
  | some c, _ => .ok (isNull c false)
  | none, some holder => .error (.lacking holder nullMember)
  | none, none => .error (.unknownColumn label)

/-- The comparisons of several columns with one escaped text. -/
def comparisons (escaped : Text) : List Text → Except QueryError (List Clause)
  | [] => .ok []
  | label :: rest =>
    match column label with
    | .error e => .error e
    | .ok c =>
      match comparisons escaped rest with
      | .error e => .error e
      | .ok cs => .ok (like c escaped false :: cs)

mutual

/-- The clause that a condition becomes, if there is room for the calls that it takes. -/
def ofPredicate (room : Nat) : Predicate → Except QueryError Clause
  | .everything => calling 1 room fun _ => .ok (const true)
  | .contains _ [] => calling 1 room fun _ => .ok (const false)
  | .contains term labels => calling 1 room fun _ =>
    (comparisons (Like.escape (Text.lower term)) labels).map disj
  | .isNull label => calling 1 room fun _ => nullTest label
  | .all children => calling translationCalls room fun room =>
    (ofPredicates room children).map conj
  | .any children => calling translationCalls room fun room =>
    (ofPredicates room children).map disj
  | .not child => calling 1 room fun room => (ofPredicate room child).map negate

/-- The clauses that several conditions become. -/
def ofPredicates (room : Nat) : List Predicate → Except QueryError (List Clause)
  | [] => .ok []
  | p :: rest =>
    match ofPredicate room p with
    | .error e => .error e
    | .ok c =>
      match ofPredicates room rest with
      | .error e => .error e
      | .ok cs => .ok (c :: cs)

end

/-- Whether a clause is a list of no clauses. -/
def isEmptyList : Clause → Bool
  | all [] | any [] => true
  | _ => false

/-- Whether a clause is a disjunction of something, which stands in parentheses as a part of a
conjunction. -/
def isDisjunction : Clause → Bool
  | any (_ :: _) => true
  | _ => false

mutual

/-- Whether a clause has no text. -/
def isBlank : Clause → Bool
  | all parts => allBlank true parts
  | any parts => allBlank false parts
  | _ => false

/-- Whether several clauses have no text; `wrap` puts disjunctions in parentheses. -/
def allBlank (wrap : Bool) : List Clause → Bool
  | [] => true
  | c :: rest => !(wrap && c.isDisjunction) && isBlank c && allBlank wrap rest

end

mutual

/-- Whether the text of a clause can be read: there has to be something in parentheses and behind a
negation. -/
def isReadable : Clause → Bool
  | all parts => allReadable true parts
  | any parts => allReadable false parts
  | not part => !isBlank part && isReadable part
  | _ => true

/-- Whether the texts of several clauses can be read; `wrap` puts disjunctions in parentheses. -/
def allReadable (wrap : Bool) : List Clause → Bool
  | [] => true
  | c :: rest => !(wrap && c.isDisjunction && isBlank c) && isReadable c && allReadable wrap rest

end

/-- A truth value of three-valued logic; `none` is unknown. -/
abbrev Truth := Option Bool

namespace Truth

/-- True if both are, false if one is false, unknown otherwise. -/
def and : Truth → Truth → Truth
  | some false, _ => some false
  | _, some false => some false
  | some true, some true => some true
  | _, _ => none

/-- False if both are, true if one is true, unknown otherwise. -/
def or : Truth → Truth → Truth
  | some true, _ => some true
  | _, some true => some true
  | some false, some false => some false
  | _, _ => none

/-- The opposite truth value; unknown stays unknown. -/
def not : Truth → Truth
  | some b => some (!b)
  | none => none

end Truth

section

variable (d : Dialect) (row : Column → Option Text)

/-- Whether an escaped term is found in a column, letter case aside. -/
def compare (c : Column) (escaped : Text) : Bool := d.finds escaped (Text.lower ((row c).getD []))

mutual

/-- The value of a clause in a store of given ways, from the content of every column. A clause
without text is true. -/
def value : Clause → Truth
  | const b | fixed b => some b
  | isNull c negated => some ((row c).isNone != negated)
  | like c escaped negated => some (compare d row c escaped != negated)
  | all parts => allValue parts
  | any parts => if allBlank false parts then some true else anyValue parts
  | not part => Truth.not (value part)

/-- The value of a conjunction. -/
def allValue : List Clause → Truth
  | [] => some true
  | c :: rest => Truth.and (value c) (allValue rest)

/-- The value of a disjunction. Clauses without text do not count. -/
def anyValue : List Clause → Truth
  | [] => some false
  | c :: rest => if isBlank c then anyValue rest else Truth.or (value c) (anyValue rest)

end

mutual

/-- Whether finding the value of a clause comes upon a term that is too long. A list is looked
through from left to right until a part decides its value. -/
def breaksOff : Clause → Bool
  | const _ | fixed _ | isNull _ _ => false
  | like _ escaped _ => d.isTooLong escaped
  | all parts => someBreaksOff false parts
  | any parts => someBreaksOff true parts
  | not part => breaksOff part

/-- Whether looking through the parts of a list comes upon a term that is too long; `decisive` is
the value of a part that decides the value of the list. -/
def someBreaksOff (decisive : Bool) : List Clause → Bool
  | [] => false
  | c :: rest =>
    breaksOff c || (value d row c != some decisive && someBreaksOff decisive rest)

end

end

/-- Whether a query with this clause selects a contact: only a clause that is true does. -/
def selects (d : Dialect) (c : Clause) (contact : Contact) : Bool :=
  value d (Column.value contact) c == some true

mutual

/-- The comparisons of a clause, from left to right: columns and escaped texts. -/
def bound : Clause → List (Column × Text)
  | const _ | fixed _ | isNull _ _ => []
  | like c escaped _ => [(c, escaped)]
  | all parts | any parts => boundAll parts
  | not part => bound part

/-- The comparisons of several clauses. -/
def boundAll : List Clause → List (Column × Text)
  | [] => []
  | c :: rest => bound c ++ boundAll rest

end

end Clause
end AddressBook.Search
