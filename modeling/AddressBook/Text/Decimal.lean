import AddressBook.Text.Basic

/-!
Numbers in the ten digits of ASCII.
-/
namespace AddressBook.Text

/-- The number that digits denote. -/
def decimal (digits : Text) : Nat := digits.foldl (fun n c => n * 10 + (c.toNat - 48)) 0

/-- The digits at the front of a text, and what follows them. -/
def takeDigits (t : Text) : Text × Text := (t.takeWhile Char.isDigit, t.dropWhile Char.isDigit)

/-- The number that a text is, if it consists of digits. -/
def natural? (t : Text) : Option Nat :=
  if !t.isEmpty && t.all Char.isDigit then some (decimal t) else none

/-- A number in decimal with zeros in front up to a width. -/
def padded (width : Nat) (n : Nat) : String :=
  let s := toString n
  String.ofList (List.replicate (width - s.length) '0') ++ s

end AddressBook.Text
