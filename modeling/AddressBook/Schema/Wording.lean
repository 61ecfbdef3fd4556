import AddressBook.Schema.Issue

/-!
The words in which reports tell faults, and the details that go with them.
-/
namespace AddressBook.Schema

/-- Choices in words, each in single quotes. -/
def choicesText : List String → String
  | [] => ""
  | [c] => "'" ++ c ++ "'"
  | [c, d] => "'" ++ c ++ "' or '" ++ d ++ "'"
  | c :: rest => "'" ++ c ++ "', " ++ choicesText rest

namespace Fault

/-- The number of characters, in words. -/
def characters (n : Nat) : String := toString n ++ if n = 1 then " character" else " characters"

/-- A fault in words. -/
def message : Fault → Text
  | missing => Text.ofString "Field required"
  | notText => Text.ofString "Input should be a valid string"
  | brokenText =>
    Text.ofString "Input should be a valid string, unable to parse raw data as a unicode string"
  | tooLong most => Text.ofString ("String should have at most " ++ characters most)
  | tooShort least => Text.ofString ("String should have at least " ++ characters least)
  | notInteger => Text.ofString "Input should be a valid integer"
  | unreadableInteger =>
    Text.ofString "Input should be a valid integer, unable to parse string as an integer"
  | oversizedInteger =>
    Text.ofString "Unable to parse input string as an integer, exceeded maximum size"
  | fractional =>
    Text.ofString "Input should be a valid integer, got a number with a fractional part"
  | notFinite => Text.ofString "Input should be a finite number"
  | tooSmall least =>
    Text.ofString ("Input should be greater than or equal to " ++ toString least)
  | tooLarge most => Text.ofString ("Input should be less than or equal to " ++ toString most)
  | notBoolean => Text.ofString "Input should be a valid boolean"
  | unreadableBoolean => Text.ofString "Input should be a valid boolean, unable to interpret input"
  | notIdentifier => Text.ofString "UUID input should be a string, bytes or UUID object"
  | unreadableIdentifier d => Text.ofString "Input should be a valid UUID, " ++ d.message
  | notList => Text.ofString "Input should be a valid list"
  | notAllowed choices => Text.ofString ("Input should be " ++ choicesText choices)
  | notDateTime => Text.ofString "Input should be a valid datetime"
  | dateTimeOutOfRange => Text.ofString "Input should be a valid datetime"
  | unreadableDateTime => Text.ofString "Input should be a valid datetime or date"
  | notObject => Text.ofString "Input should be an object"
  | notBody => Text.ofString "Input should be a valid dictionary or object to extract fields from"
  | notJson => Text.ofString "Invalid JSON"

/-- The details of a fault: the bound that is not kept, or what is wrong. -/
def details : Fault → List (String × Json)
  | tooLong most => [("max_length", .int most)]
  | tooShort least => [("min_length", .int least)]
  | tooSmall least => [("ge", .int least)]
  | tooLarge most => [("le", .int most)]
  | unreadableIdentifier d => [("error", .text d.message)]
  | notAllowed choices => [("expected", .string (choicesText choices))]
  | _ => []

end Fault

/-- A step on the way to a part of a request in JSON. -/
def Step.toJson : Step → Json
  | member name => .string name
  | index i => .int i

namespace Issue

/-- What a report tells of every issue: the kind of the fault and the way to it. -/
def summary (i : Issue) : List (String × Json) :=
  [("type", .string i.fault.code), ("loc", .array (i.path.map Step.toJson))]

/-- The start of the names of members that no report shows. -/
def hiddenLead : Text := Text.ofString "_sa"

/-- The value at fault as a report shows it. -/
def shown (i : Issue) : Json := i.value.without hiddenLead

/-- An issue with all that a report tells of it. -/
def full (i : Issue) : Json :=
  let details := match i.fault.details with
    | [] => []
    | ds => [("ctx", Json.record ds)]
  .record (i.summary ++ [("msg", .text i.fault.message), ("input", i.shown)] ++ details)

end Issue

/-- The full report on issues. -/
def report (issues : List Issue) : Json := .record [("detail", .array (issues.map Issue.full))]

end AddressBook.Schema
