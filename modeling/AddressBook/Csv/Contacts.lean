import AddressBook.Contact.Field
import AddressBook.Csv.Record
import AddressBook.Text.Blank
import AddressBook.Text.Case

/-!
Contacts from comma-separated text. The first record is the header; a column
fills the field whose name its header spells, blanks and letter case aside.
-/
namespace AddressBook.Csv

/-- Why a text holds no contacts. -/
inductive ImportError where
  /-- No column of the header names a field. -/
  | noHeader
  | malformed (why : Malformed)
deriving DecidableEq

/-- The wording of an import error. -/
def ImportError.message : ImportError → String
  | noHeader =>
    "CSV header must contain at least one of: " ++ ", ".intercalate (Field.all.map Field.title)
  | malformed why => "CSV parsing failed: " ++ why.message

/-- The field that a header names. -/
def headerField? (header : Text) : Option Field := Field.ofLabel? (Text.lower (Text.trim header))

/-- The place of the last entry that satisfies a condition. -/
def lastPlace (p : Text → Bool) : List Text → Option Nat
  | [] => none
  | x :: rest =>
    match lastPlace p rest with
    | some i => some (i + 1)
    | none => if p x then some 0 else none

/-- The column of a field: of the headers that name the field the last counts, and of the columns
with that very header the last. -/
def column? (headers : List Text) (f : Field) : Option Nat :=
  match headers.reverse.find? fun h => headerField? h == some f with
  | none => none
  | some header => lastPlace (· == header) headers

/-- The value of a cell: its text without outer blanks, unless nothing is left. -/
def cellValue (cell : Text) : Option Text :=
  match Text.trim cell with
  | [] => none
  | t => some t

/-- The fields that a record gives. -/
def rowFields (headers record : List Text) : Fields :=
  .ofFunction fun f => do
    let i ← column? headers f
    let cell ← record[i]?
    cellValue cell

/-- Whether some field has a value. -/
def hasValue (v : Fields) : Bool := Field.all.any fun f => (v.get f).isSome

/-- The contacts of a text in the order of its records; records without a value give none. -/
def contacts (t : Text) : Except ImportError (List Fields) :=
  let doc := cut (t.dropWhile (· == '\uFEFF'))
  match doc.records, doc.failure with
  | [], some why => .error (.malformed why)
  | [], none => .error .noHeader
  | headers :: records, failure =>
    if Field.all.all fun f => (column? headers f).isNone then .error .noHeader
    else match failure with
      | some why => .error (.malformed why)
      | none => .ok ((records.map (rowFields headers)).filter hasValue)

end AddressBook.Csv
