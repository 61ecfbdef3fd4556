import AddressBook.Text.Basic
import AddressBook.Json.Real
import AddressBook.Text.Half

/-!
JSON values. The members of an object have distinct names, in the order in which
the names were first met.
-/
namespace AddressBook

/-- A JSON value. -/
inductive Json where
  | null
  | bool (value : Bool)
  | int (value : Int)
  | real (value : Real)
  | text (value : Text)
  | array (items : List Json)
  | object (members : List (Text × Json))

namespace Json

/-- The object with the given members. -/
def record (members : List (String × Json)) : Json :=
  .object (members.map fun (name, value) => (Text.ofString name, value))

/-- The text value of a literal. -/
def string (s : String) : Json := .text (Text.ofString s)

/-- A value, or null where there is none. -/
def optional {α : Type} (encode : α → Json) : Option α → Json
  | none => .null
  | some x => encode x

/-- The member of an object with a given name. -/
def member? (name : Text) : Json → Option Json
  | .object members => (members.find? (·.1 == name)).map (·.2)
  | _ => none

/-- The member of an object with a given literal name. -/
def get? (name : String) (j : Json) : Option Json := j.member? (Text.ofString name)

/-- Members with `name` bound to `value`; a name met before keeps its place. -/
def setMember (name : Text) (value : Json) : List (Text × Json) → List (Text × Json)
  | [] => [(name, value)]
  | (n, v) :: rest => if n == name then (n, value) :: rest else (n, v) :: setMember name value rest

/-- The object with the given members; of members with one name the last counts. -/
def ofMembers (members : List (Text × Json)) : Json :=
  .object (members.foldl (fun done (name, value) => setMember name value done) [])

mutual

/-- Whether all numbers in a value are finite. -/
def isFinite : Json → Bool
  | .real x => x.isFinite
  | .array items => itemsFinite items
  | .object members => membersFinite members
  | _ => true

/-- Whether all numbers in the items of an array are finite. -/
def itemsFinite : List Json → Bool
  | [] => true
  | v :: rest => isFinite v && itemsFinite rest

/-- Whether all numbers in the members of an object are finite. -/
def membersFinite : List (Text × Json) → Bool
  | [] => true
  | (_, v) :: rest => isFinite v && membersFinite rest

end

mutual

/-- Whether a text in a value holds a half of a surrogate pair. -/
def holdsHalf : Json → Bool
  | .text t => Half.occursIn t
  | .array items => itemsHoldHalf items
  | .object members => membersHoldHalf members
  | _ => false

/-- Whether a text in the items of an array holds a half. -/
def itemsHoldHalf : List Json → Bool
  | [] => false
  | v :: rest => holdsHalf v || itemsHoldHalf rest

/-- Whether a text in the members of an object holds a half. -/
def membersHoldHalf : List (Text × Json) → Bool
  | [] => false
  | (name, v) :: rest => Half.occursIn name || holdsHalf v || membersHoldHalf rest

end

mutual

/-- The greatest number of arrays and objects inside each other. -/
def depth : Json → Nat
  | .array items => itemsDepth items + 1
  | .object members => membersDepth members + 1
  | _ => 0

/-- The depth of the deepest item of an array. -/
def itemsDepth : List Json → Nat
  | [] => 0
  | v :: rest => max (depth v) (itemsDepth rest)

/-- The depth of the deepest member of an object. -/
def membersDepth : List (Text × Json) → Nat
  | [] => 0
  | (_, v) :: rest => max (depth v) (membersDepth rest)

end

mutual

/-- A value without the members of objects, on every level, whose names start with a given text. -/
def without (lead : Text) : Json → Json
  | .array items => .array (itemsWithout lead items)
  | .object members => .object (membersWithout lead members)
  | v => v

/-- The items of an array without certain members. -/
def itemsWithout (lead : Text) : List Json → List Json
  | [] => []
  | v :: rest => without lead v :: itemsWithout lead rest

/-- The members of an object without certain ones. -/
def membersWithout (lead : Text) : List (Text × Json) → List (Text × Json)
  | [] => []
  | (name, v) :: rest =>
    if lead.isPrefixOf name then membersWithout lead rest
    else (name, without lead v) :: membersWithout lead rest

end

/-- The name of a kind of value. -/
def kindName : Json → String
  | .null => "NoneType"
  | .bool _ => "bool"
  | .int _ => "int"
  | .real _ => "float"
  | .text _ => "str"
  | .array _ => "list"
  | .object _ => "dict"

end Json
end AddressBook
