import AddressBook.Json.Basic
import AddressBook.Uuid

/-!
What is wrong with a request, and where. All faults of a request are reported
together, in the order in which its parts are declared.
-/
namespace AddressBook.Schema

/-- A fault. -/
inductive Fault where
  | missing
  | notText
  /-- A text holds the half of a surrogate pair. -/
  | brokenText
  | tooLong (most : Nat)
  | tooShort (least : Nat)
  | notInteger
  | unreadableInteger
  | oversizedInteger
  | fractional
  | notFinite
  | tooSmall (least : Int)
  | tooLarge (most : Int)
  | notBoolean
  | unreadableBoolean
  | notIdentifier
  | unreadableIdentifier (defect : Uuid.Defect)
  | notList
  | notAllowed (choices : List String)
  | notDateTime
  | dateTimeOutOfRange
  | unreadableDateTime
  | notObject
  | notBody
  | notJson
deriving DecidableEq

/-- The name of the kind of a fault in reports. -/
def Fault.code : Fault → String
  | missing => "missing"
  | notText => "string_type"
  | brokenText => "string_unicode"
  | tooLong _ => "string_too_long"
  | tooShort _ => "string_too_short"
  | notInteger => "int_type"
  | unreadableInteger => "int_parsing"
  | oversizedInteger => "int_parsing_size"
  | fractional => "int_from_float"
  | notFinite => "finite_number"
  | tooSmall _ => "greater_than_equal"
  | tooLarge _ => "less_than_equal"
  | notBoolean => "bool_type"
  | unreadableBoolean => "bool_parsing"
  | notIdentifier => "uuid_type"
  | unreadableIdentifier _ => "uuid_parsing"
  | notList => "list_type"
  | notAllowed _ => "literal_error"
  | notDateTime => "datetime_type"
  | dateTimeOutOfRange => "datetime_parsing"
  | unreadableDateTime => "datetime_from_date_parsing"
  | notObject => "model_type"
  | notBody => "model_attributes_type"
  | notJson => "json_invalid"

/-- A step on the way to a part of a request. -/
inductive Step where
  | member (name : String)
  | index (i : Nat)
deriving DecidableEq

/-- A fault and the way to the part that has it. -/
structure Issue where
  fault : Fault
  path : List Step
  /-- The value at fault; where a part is missing, the object that lacks it. -/
  value : Json

/-- A checked value, or everything that is wrong with it. -/
abbrev Checked (α : Type) := Except (List Issue) α

namespace Checked

variable {α β : Type}

/-- The failure with a single fault of the value at hand. -/
def fail (f : Fault) (v : Json) : Checked α := .error [⟨f, [], v⟩]

/-- The same failures, seen from one step further out. -/
def under (step : Step) : Checked α → Checked α
  | .ok x => .ok x
  | .error issues => .error (issues.map fun i => { i with path := step :: i.path })

/-- Both values, or the failures of both. -/
def both : Checked α → Checked β → Checked (α × β)
  | .ok x, .ok y => .ok (x, y)
  | .ok _, .error e => .error e
  | .error e, .ok _ => .error e
  | .error e, .error e' => .error (e ++ e')

/-- A function applied to one more part, with the failures of both. -/
def on (f : Checked (α → β)) (x : Checked α) : Checked β :=
  match both f x with
  | .ok (f, x) => .ok (f x)
  | .error e => .error e

/-- All values of a list, or the failures of all. -/
def list : List (Checked α) → Checked (List α)
  | [] => .ok []
  | x :: rest => on (x.map List.cons) (list rest)

end Checked
end AddressBook.Schema
