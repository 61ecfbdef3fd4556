import AddressBook.Search.Holder
import AddressBook.Text.Basic

/-!
Why a condition cannot be put to use. A condition is followed by calls inside calls, as deep as it is
nested, and there is room for only so many of them.
-/
namespace AddressBook.Search

/-- Why a condition, or a tree of such, cannot be used. -/
inductive QueryError where
  /-- A node of the tree is no condition; the kind of value that it is is given. -/
  | unsupported (kind : String)
  | unknownColumn (label : Text)
  /-- A name stands for something that cannot be compared. -/
  | incomparable
  /-- Something stands where something else is needed. -/
  | lacking (holder : Holder) (member : String)
  /-- A value of some kind stands for the name of a field. -/
  | notName (kind : String)
  /-- A value of some kind stands for a text to be searched. -/
  | notText (kind : String)
  /-- There is no room for the calls that it takes to follow the nesting. -/
  | tooDeep

/-- The wording of a query error, if it has one. -/
def QueryError.message : QueryError → Option Text
  | unsupported kind => some (Text.ofString ("Unsupported predicate node: " ++ kind))
  | unknownColumn label =>
    some (Text.ofString "type object 'Contact' has no attribute '" ++ label ++ ['\''])
  | incomparable => none
  | lacking holder member =>
    some (Text.ofString (holder.text ++ " has no attribute '" ++ member ++ "'"))
  | notName kind => some (Text.ofString ("attribute name must be string, not '" ++ kind ++ "'"))
  | notText kind =>
    some (Text.ofString ("expected string or bytes-like object, got '" ++ kind ++ "'"))
  | tooDeep => some (Text.ofString "maximum recursion depth exceeded")

/-- The calls by which a list of conditions is tried: one for the list, one for the question whether
all or any of its parts hold, and one for the loop over the parts. -/
def trialCalls : Nat := 3

/-- The calls by which a list of conditions is translated: one for the list, and one for the loop
over its parts. -/
def translationCalls : Nat := 2

/-- The number of calls that can be open inside one another. -/
def callLimit : Nat := 1000

/-- The room that is usually left for a search. The calls around it and those inside its leaves take
some. -/
def usualRoom : Nat := 900

/-- What is done inside some more calls, if there is room for them. -/
def calling {α : Type} (calls room : Nat) (body : Nat → Except QueryError α) :
    Except QueryError α :=
  if calls ≤ room then body (room - calls) else .error .tooDeep

end AddressBook.Search
