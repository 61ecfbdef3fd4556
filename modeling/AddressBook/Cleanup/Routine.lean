import AddressBook.Cleanup.Normal
import AddressBook.Failure
import AddressBook.Search.Tree

/-!
The normal forms as routines that can be called by name, on arguments of any kind.
-/
namespace AddressBook.Cleanup

open Search.Tree

/-- A routine. -/
inductive Routine where
  | address
  | nameFromEmail
  | placeholderEmail
  | phone
  | name
  | email
  | fill
deriving DecidableEq

namespace Routine

/-- Every routine. -/
def all : List Routine := [address, nameFromEmail, placeholderEmail, phone, name, email, fill]

/-- The name of a routine. -/
def title : Routine → String
  | address => "clean_address"
  | nameFromEmail => "name_from_email"
  | placeholderEmail => "placeholder_email"
  | phone => "clean_phone"
  | name => "clean_name"
  | email => "clean_email"
  | fill => "fill_missing_name_and_email"

/-- A short name of a routine. -/
def shortTitle : Routine → String
  | fill => "fill"
  | r => r.title

/-- The routine with a given short name. -/
def ofLabel? (label : Text) : Option Routine :=
  all.find? fun r => Text.ofString r.shortTitle == label

/-- The arguments of a routine. -/
def parameters : Routine → List String
  | address => ["address"]
  | nameFromEmail | email => ["email"]
  | placeholderEmail | name => ["name"]
  | phone => ["phone"]
  | fill => ["name", "email"]

/-- How a routine is called. -/
def signature (r : Routine) : Signature := { title := r.title ++ "()", parameters := r.parameters }

/-- Whether a value counts as there: it is not null, false, zero or empty. -/
def isThere : Json → Bool
  | .null | .bool false | .int 0 | .text [] | .array [] | .object [] => false
  | .real x => !(x.whole? == some 0)
  | _ => true

/-- The name that an e-mail address of any kind suggests. -/
def nameOf (email : Json) : Except Search.QueryError Json :=
  (textWith "split" email).map fun t => .text (Cleanup.nameFromEmail t)

/-- A made-up e-mail address for a name of any kind. -/
def emailOf (name : Json) : Except Search.QueryError Json :=
  (textWith "lower" name).map fun t => .text (Cleanup.placeholderEmail t)

/-- Name and e-mail address of any kind, each made from the other where it is not there. -/
def filled (name email : Json) : Except Search.QueryError Json := do
  let name ← if !isThere name && isThere email then nameOf email else .ok name
  let email ← if !isThere email && isThere name then emailOf name else .ok email
  return .array [if isThere name then name else .text unknownName,
    if isThere email then email else .null]

/-- What a routine makes of arguments. -/
def apply (r : Routine) (first second : Json) : Except Search.QueryError Json :=
  match r with
  | address => (textWith "replace" first).map fun t => .text (Cleanup.address t)
  | nameFromEmail => nameOf first
  | placeholderEmail => emailOf first
  | phone => (searchedText first).map fun t => .text (Cleanup.phone t)
  | name => (searchedText first).map fun t => .text (Cleanup.name t)
  | email => (textWith "lower" first).map fun t => .text (Cleanup.email t)
  | fill => filled first second

/-- The result of a routine on arguments in order. -/
def call (r : Routine) (arguments : List Json) : Except Failure Json :=
  if !r.signature.takes arguments.length then .error (.miscounted r.signature arguments.length)
  else
    match r.apply (arguments[0]?.getD .null) (arguments[1]?.getD .null) with
    | .ok v => .ok v
    | .error e => .error (.query e)

end Routine
end AddressBook.Cleanup
