import AddressBook.Text.Hex

/-!
Halves of surrogate pairs. A half is a number and no character, but a text can
come with one that has lost its partner. It is held as two characters: a mark
that no text has a use for, and a stand-in. No encoding of text has room for it.

The two characters could come in a text as well, and are then taken for a half:
a text in which U+10FFFE, which is set aside as no character, stands before one of
U+E000 to U+E7FF is not told apart from a text with a half there. All that is
said of halves, and of texts without any, is said of texts in this sense.
-/
namespace AddressBook.Half

/-- The mark in front of the stand-in of a half: a number set aside for internal use, which no
character will ever have. -/
def mark : Char := Char.ofNat 0x10FFFE

/-- The character that stands in for a half. -/
def standIn (half : Nat) : Char := Char.ofNat (half + 0x800)

/-- The half for which two characters stand. -/
def half? (first second : Char) : Option Nat :=
  if first == mark && 0xE000 ≤ second.toNat && second.toNat < 0xE800 then
    some (second.toNat - 0x800)
  else none

/-- A half put in front of a text that is kept last character first. -/
def onto (done : Text) (half : Nat) : Text := standIn half :: mark :: done

/-- Whether a character is the mark of a half, given what follows it. -/
def opens (c : Char) : Text → Bool
  | [] => false
  | next :: _ => (half? c next).isSome

/-- The numbers of the characters and halves of a text. -/
def codes : Text → List Nat
  | first :: second :: rest =>
    match half? first second with
    | some half => half :: codes rest
    | none => first.toNat :: codes (second :: rest)
  | [c] => [c.toNat]
  | [] => []

/-- The number of halves at the front of a text. -/
def leading : Text → Nat
  | first :: second :: rest => if (half? first second).isSome then leading rest + 1 else 0
  | _ => 0

/-- Halves in a row. -/
structure Run where
  /-- The first of them. -/
  half : Nat
  /-- The number of characters and halves before them. -/
  position : Nat
  /-- How many they are. -/
  count : Nat
deriving DecidableEq

/-- The first halves of a text behind `position` others. -/
def runFrom (position : Nat) : Text → Option Run
  | first :: second :: rest =>
    match half? first second with
    | some half => some ⟨half, position, leading rest + 1⟩
    | none => runFrom (position + 1) (second :: rest)
  | _ => none

/-- The first halves of a text. -/
def run? (t : Text) : Option Run := runFrom 0 t

/-- Whether a text holds a half. -/
def occursIn (t : Text) : Bool := (run? t).isSome

/-- Why a text with halves cannot be put in bytes, in words. -/
def Run.message (r : Run) : Text :=
  let place :=
    if r.count == 1 then
      Text.ofString "character '\\u" ++ Text.hexDigits 4 r.half
        ++ Text.ofString ("' in position " ++ toString r.position)
    else
      Text.ofString ("characters in position " ++ toString r.position ++ "-"
        ++ toString (r.position + r.count - 1))
  Text.ofString "'utf-8' codec can't encode " ++ place ++ Text.ofString ": surrogates not allowed"

end AddressBook.Half
