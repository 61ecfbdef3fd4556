import AddressBook.Json.Basic
import AddressBook.Json.Shortest
import AddressBook.Text.Half

/-!
Writing JSON values. Characters that cannot stand in a string are escaped; in
ASCII form all others beyond ASCII are escaped too, by their 16-bit units.
-/
namespace AddressBook.Json

/-- The escape of a 16-bit unit. -/
def unitEscape (n : Nat) : String := String.ofList ('\\' :: 'u' :: Text.hexDigits 4 n)

/-- The written form of a character that cannot stand in a string, in the shortest way. -/
def escapedChar? (c : Char) : Option String :=
  match c with
  | '"' => some "\\\""
  | '\\' => some "\\\\"
  | '\n' => some "\\n"
  | '\r' => some "\\r"
  | '\t' => some "\\t"
  | '\x0c' => some "\\f"
  | '\x08' => some "\\b"
  | c => if c.toNat < 0x20 then some (unitEscape c.toNat) else none

/-- The written form of a character inside a string. -/
def plainChar (c : Char) : String := (escapedChar? c).getD c.toString

/-- The written form of the inside of a string. -/
def plainInside (t : Text) : String := t.foldl (fun out c => out ++ plainChar c) ""

/-- The written form of a character or half inside a string, in ASCII. -/
def asciiCode (n : Nat) : String :=
  if n < 0x7F then plainChar (Char.ofNat n)
  else if n < 0x10000 then unitEscape n
  else unitEscape (0xD800 + (n - 0x10000) / 0x400) ++ unitEscape (0xDC00 + (n - 0x10000) % 0x400)

/-- The written form of the inside of a string, in ASCII. -/
def asciiInside (t : Text) : String := (Half.codes t).foldl (fun out n => out ++ asciiCode n) ""

/-- The written form of a number with a fraction or an exponent. -/
def writtenReal (x : Real) : String := String.ofList (x.written "Infinity" "NaN")

section

variable (form : Text → String)

/-- A string in quotes, added to what is written. -/
def writeText (out : String) (t : Text) : String := (out.push '"' ++ form t).push '"'

mutual

/-- A value, added to what is written. -/
def writeOnto (out : String) : Json → String
  | .null => out ++ "null"
  | .bool b => out ++ if b then "true" else "false"
  | .int n => out ++ toString n
  | .real x => out ++ writtenReal x
  | .text t => writeText form out t
  | .array items => (writeItems (out.push '[') true items).push ']'
  | .object members => (writeMembers (out.push '\x7b') true members).push '\x7d'

/-- Array items, separated by commas. -/
def writeItems (out : String) (first : Bool) : List Json → String
  | [] => out
  | v :: rest => writeItems (writeOnto (if first then out else out.push ',') v) false rest

/-- Object members, separated by commas. -/
def writeMembers (out : String) (first : Bool) : List (Text × Json) → String
  | [] => out
  | (name, v) :: rest =>
    let out := writeText form (if first then out else out.push ',') name
    writeMembers (writeOnto (out.push ':') v) false rest

end

end

/-- The written form of a value in ASCII. -/
def write (v : Json) : String := writeOnto asciiInside "" v

/-- The written form of a value, in which only those characters are escaped that have to be. -/
def writePlain (v : Json) : String := writeOnto plainInside "" v

end AddressBook.Json
