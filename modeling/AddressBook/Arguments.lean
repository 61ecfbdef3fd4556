/-!
Arguments that are given by position: how many are needed, and what is told if
there are too few or too many.
-/
namespace AddressBook

/-- What takes arguments. -/
structure Signature where
  title : String
  /-- The names of the arguments. -/
  parameters : List String
  /-- How many of the last ones may be left out. -/
  optional : Nat := 0
  /-- How many that are not given count among them. -/
  implied : Nat := 0

namespace Signature

/-- Names in quotes as a list in words. -/
def listed : List String → String
  | [] => ""
  | [a] => "'" ++ a ++ "'"
  | [a, b] => "'" ++ a ++ "' and '" ++ b ++ "'"
  | [a, b, c] => "'" ++ a ++ "', '" ++ b ++ "', and '" ++ c ++ "'"
  | a :: rest => "'" ++ a ++ "', " ++ listed rest

/-- The ending of a word for so many things. -/
def plural (n : Nat) : String := if n = 1 then "" else "s"

/-- The least number of arguments. -/
def least (s : Signature) : Nat := s.parameters.length - s.optional

/-- Whether so many arguments may be given. -/
def takes (s : Signature) (given : Nat) : Bool := s.least ≤ given && given ≤ s.parameters.length

/-- What is told about a wrong number of arguments. -/
def complaint (s : Signature) (given : Nat) : String :=
  let lacking := (s.parameters.take s.least).drop given
  let most := s.parameters.length + s.implied
  let count := given + s.implied
  if !lacking.isEmpty then
    s.title ++ " missing " ++ toString lacking.length ++ " required positional argument"
      ++ plural lacking.length ++ ": " ++ listed lacking
  else if s.optional = 0 then
    s.title ++ " takes " ++ toString most ++ " positional argument" ++ plural most ++ " but "
      ++ toString count ++ (if count = 1 then " was" else " were") ++ " given"
  else
    s.title ++ " takes from " ++ toString (s.least + s.implied) ++ " to " ++ toString most
      ++ " positional arguments but " ++ toString count ++ " were given"

end Signature
end AddressBook
