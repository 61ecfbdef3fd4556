import AddressBook.Text.Hex

/-!
Identifiers of 128 bits: their written form, the forms in which they are
accepted, and the numbered identifiers of stored rows.
-/
namespace AddressBook

/-- An identifier. -/
structure Uuid where
  value : Nat
deriving DecidableEq

namespace Uuid

/-- The digits of an identifier, in lower case. -/
def digits (u : Uuid) : Text := Text.hexDigits 32 u.value

/-- The hyphenated lower-case form. -/
def written (u : Uuid) : Text :=
  let d := u.digits
  Text.join ['-'] [d.take 8, (d.drop 8).take 4, (d.drop 12).take 4, (d.drop 16).take 4, d.drop 20]

/-- The identifier with 32 given hexadecimal digits. -/
def ofDigits? (t : Text) : Option Uuid :=
  if t.length == 32 then (Text.hexNumber? t).map Uuid.mk else none

/-- The identifier with a given hyphenated form. -/
def ofHyphenated? (t : Text) : Option Uuid :=
  match Text.pieces (· == '-') t with
  | [a, b, c, d, e] =>
    if a.length == 8 && b.length == 4 && c.length == 4 && d.length == 4 && e.length == 12 then
      ofDigits? (a ++ b ++ c ++ d ++ e)
    else none
  | _ => none

/-- The lead of the form as a resource name. -/
def urn : Text := Text.ofString "urn:uuid:"

/-- The identifier that a text denotes: hyphenated, as digits alone, in braces, or as a resource
name, with digits in either letter case. -/
def ofText? (t : Text) : Option Uuid :=
  match t with
  | '\x7b' :: rest =>
    if rest.getLast? == some '\x7d' then ofHyphenated? rest.dropLast else none
  | _ =>
    if urn.isPrefixOf t then ofHyphenated? (t.drop urn.length)
    else if t.length == 32 then ofDigits? t
    else ofHyphenated? t

/-- What is wrong with the form of an identifier. -/
inductive Defect where
  /-- A character that is neither a digit nor a hyphen stands at a place, counted from one. -/
  | foreign (c : Char) (place : Nat)
  /-- Digits alone are so many. -/
  | digitCount (found : Nat)
  /-- The hyphens make so many groups. -/
  | groupCount (found : Nat)
  /-- A group, counted from zero, has so many digits. -/
  | groupLength (group expected found : Nat)
deriving DecidableEq

/-- A defect in words. -/
def Defect.message : Defect → Text
  | foreign c place =>
    Text.ofString "invalid character: expected an optional prefix of `urn:uuid:` followed by [0-9a-fA-F-], found `"
      ++ c :: Text.ofString ("` at " ++ toString place)
  | digitCount found =>
    Text.ofString ("invalid length: expected length 32 for simple format, found " ++ toString found)
  | groupCount found =>
    Text.ofString ("invalid group count: expected 5, found " ++ toString found)
  | groupLength group expected found =>
    Text.ofString ("invalid group length in group " ++ toString group ++ ": expected "
      ++ toString expected ++ ", found " ++ toString found)

/-- Whether a character may stand in the hyphenated form. -/
def isPart (c : Char) : Bool := c == '-' || (Text.hexDigit? c).isSome

/-- The defect of groups, the first of which has a number, among those of the given lengths. What is
wrong with the last group is seen from the length of the whole text. -/
def groupDefect (whole : Text) (number : Nat) : List (Text × Nat) → Defect
  | [] => .groupLength number 12 (whole.length - 24)
  | (group, expected) :: rest =>
    if group.length = expected then groupDefect whole (number + 1) rest
    else .groupLength number expected group.length

/-- What is wrong with a text that denotes no identifier. -/
def defect (t : Text) : Defect :=
  let (body, offset, plain) : Text × Nat × Bool := match t with
    | '\x7b' :: rest => if rest.getLast? == some '\x7d' then (rest.dropLast, 1, false) else (t, 0, true)
    | _ => if urn.isPrefixOf t then (t.drop urn.length, urn.length, false) else (t, 0, true)
  let groups := Text.pieces (· == '-') body
  match body.dropWhile isPart with
  | c :: rest => .foreign c (offset + (body.length - rest.length))
  | [] =>
    if plain && groups.length == 1 then .digitCount t.length
    else if groups.length != 5 then .groupCount groups.length
    else groupDefect t 0 (groups.zip [8, 4, 4, 4])

/-- The number whose hexadecimal digits are the decimal digits of `n`; `fuel` bounds how many there
are. -/
def decimalAsHex : Nat → Nat → Nat
  | 0, _ => 0
  | fuel + 1, n => if n == 0 then 0 else decimalAsHex fuel (n / 10) * 16 + n % 10

/-- The `n`-th identifier of a row kind with a given first byte. Its last twelve digits are those of
`n`, as long as these are enough. -/
def numbered (lead n : Nat) : Uuid :=
  ⟨lead * Nat.pow 16 30 + 0x40008000 * Nat.pow 16 12 + decimalAsHex n n⟩

end Uuid
end AddressBook
