import AddressBook.Text.Basic

/-!
Records of comma-separated text. A cell may stand in double quotes, with a quote
inside written twice; then commas and line ends belong to it. Cutting is lenient:
text behind a closing quote belongs to the cell, and a quote that is never closed
reaches to the end of the text.
-/
namespace AddressBook.Csv

/-- Why a text could not be cut into records. -/
inductive Malformed where
  /-- A carriage return ended a record in the middle of a line. -/
  | strayReturn
  /-- A cell grew longer than the limit. -/
  | longCell
deriving DecidableEq

/-- The greatest number of characters in a cell. -/
def cellLimit : Nat := 131072

/-- The wording of a malformation. -/
def Malformed.message : Malformed → String
  | strayReturn =>
    "new-line character seen in unquoted field - do you need to open the file in universal-newline mode?"
  | longCell => "field larger than field limit (" ++ toString cellLimit ++ ")"

/-- Where the next character stands. -/
inductive Place where
  /-- At the start of a record. -/
  | recordStart
  /-- At the start of a cell that is not the first of its record. -/
  | cellStart
  /-- In a cell, outside quotes. -/
  | bare
  /-- In a cell, inside quotes. -/
  | quoted
  /-- Behind a quote that stood inside quotes. -/
  | afterQuote
  /-- Behind the line end of a record. -/
  | lineDone
deriving DecidableEq

/-- The work of cutting. Cells and records are kept last first, the cell in progress reversed. -/
structure Cutter where
  place : Place
  cell : Text
  size : Nat
  cells : List Text
  records : List (List Text)
  /-- Whether the present line has characters. -/
  inLine : Bool
  failure : Option Malformed

namespace Cutter

/-- The work before the first character. -/
def start : Cutter := ⟨.recordStart, [], 0, [], [], false, none⟩

/-- The cell in progress is complete. -/
def endCell (m : Cutter) (place : Place) : Cutter :=
  { m with place, cell := [], size := 0, cells := m.cell.reverse :: m.cells }

/-- The record in progress is complete. -/
def endRecord (m : Cutter) : Cutter :=
  { m with place := .recordStart, cells := [], records := m.cells.reverse :: m.records }

/-- One more character in the cell in progress. -/
def add (m : Cutter) (place : Place) (c : Char) : Cutter :=
  if cellLimit ≤ m.size then { m with failure := some .longCell }
  else { m with place, cell := c :: m.cell, size := m.size + 1 }

/-- A character at the start of a cell. -/
def openCell (m : Cutter) (c : Char) : Cutter :=
  if c == '\n' || c == '\r' then m.endCell .lineDone
  else if c == '"' then { m with place := .quoted }
  else if c == ',' then m.endCell .cellStart
  else m.add .bare c

/-- One character, line ends of lines left aside. -/
def char (m : Cutter) (c : Char) : Cutter :=
  match m.place with
  | .recordStart => if c == '\n' || c == '\r' then { m with place := .lineDone } else m.openCell c
  | .cellStart => m.openCell c
  | .bare =>
    if c == '\n' || c == '\r' then m.endCell .lineDone
    else if c == ',' then m.endCell .cellStart
    else m.add .bare c
  | .quoted => if c == '"' then { m with place := .afterQuote } else m.add .quoted c
  | .afterQuote =>
    if c == '"' then m.add .quoted c
    else if c == ',' then m.endCell .cellStart
    else if c == '\n' || c == '\r' then m.endCell .lineDone
    else m.add .bare c
  | .lineDone =>
    if c == '\n' || c == '\r' then m else { m with failure := some .strayReturn }

/-- The end of a line. It ends the record unless a quote is open. -/
def endLine (m : Cutter) : Cutter :=
  match m.place with
  | .quoted => m
  | .recordStart | .lineDone => m.endRecord
  | .cellStart | .bare | .afterQuote => (m.endCell .recordStart).endRecord

/-- One character; lines end behind a line feed. After a failure nothing more is read. -/
def feed (m : Cutter) (c : Char) : Cutter :=
  if m.failure.isSome then m
  else
    let m := { m.char c with inLine := c != '\n' }
    if c == '\n' && m.failure.isNone then m.endLine else m

/-- The end of the text. -/
def finish (m : Cutter) : Cutter :=
  if m.failure.isSome then m
  else
    let m := if m.inLine then m.endLine else m
    if m.place == .quoted then (m.endCell .recordStart).endRecord else m

end Cutter

/-- The records of a text up to its end or to the place where it is malformed. -/
structure Document where
  records : List (List Text)
  failure : Option Malformed

/-- A text cut into records. A blank line is a record without cells. -/
def cut (t : Text) : Document :=
  let m := (t.foldl Cutter.feed Cutter.start).finish
  ⟨m.records.reverse, m.failure⟩

end AddressBook.Csv
