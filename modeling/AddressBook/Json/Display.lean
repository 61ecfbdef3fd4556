import AddressBook.Json.Basic
import AddressBook.Json.Shortest
import AddressBook.Text.Half
import AddressBook.Text.UnseenTable

/-!
Values as messages show them. A text stands as it is, but inside a list or an
object it is quoted, with escapes for characters that cannot be seen.
-/
namespace AddressBook.Json

/-- A character or half inside quotes of a given kind. -/
def quotedCode (quote : Char) (n : Nat) : Text :=
  let c := Char.ofNat n
  if c == quote || c == '\\' then ['\\', c]
  else if c == '\n' then ['\\', 'n']
  else if c == '\r' then ['\\', 'r']
  else if c == '\t' then ['\\', 't']
  else if !Text.UnseenTable.holds n then [c]
  else if n < 0x100 then '\\' :: 'x' :: Text.hexDigits 2 n
  else if n < 0x10000 then '\\' :: 'u' :: Text.hexDigits 4 n
  else '\\' :: 'U' :: Text.hexDigits 8 n

/-- A text in quotes: in single ones, unless it holds these and no double ones. -/
def quoted (t : Text) : Text :=
  let quote := if t.contains '\'' && !t.contains '"' then '"' else '\''
  quote :: ((Half.codes t).flatMap (quotedCode quote) ++ [quote])

mutual

/-- A value inside another one. -/
def inner : Json → Text
  | .null => Text.ofString "None"
  | .bool b => Text.ofString (if b then "True" else "False")
  | .int n => Text.ofString (toString n)
  | .real x => x.written "inf" "nan"
  | .text t => quoted t
  | .array items => '[' :: (innerItems items ++ [']'])
  | .object members => '\x7b' :: (innerMembers members ++ ['\x7d'])

/-- The items of a list, separated by commas. -/
def innerItems : List Json → Text
  | [] => []
  | [v] => inner v
  | v :: rest => inner v ++ ',' :: ' ' :: innerItems rest

/-- The members of an object, separated by commas. -/
def innerMembers : List (Text × Json) → Text
  | [] => []
  | [(name, v)] => quoted name ++ ':' :: ' ' :: inner v
  | (name, v) :: rest => quoted name ++ ':' :: ' ' :: (inner v ++ ',' :: ' ' :: innerMembers rest)

end

/-- A value as a message shows it. -/
def display : Json → Text
  | .text t => t
  | v => v.inner

end AddressBook.Json
