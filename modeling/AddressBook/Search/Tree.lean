import AddressBook.Json.Basic
import AddressBook.Search.Clause

/-!
Conditions as JSON trees. A node of a tree is an object whose member `t` names
the kind of condition; anything else is no condition. What is wrong with a tree
is found when it is used, from left to right.
-/
namespace AddressBook.Search

/-- A tree of conditions as it is given: any part of it may turn out to be no condition. -/
inductive Tree where
  | everything
  | contains (term : Json) (labels : List Json)
  | isNull (label : Json)
  | all (children : List Tree)
  | any (children : List Tree)
  | not (child : Tree)
  /-- A value of some kind that is no condition. -/
  | alien (kind : String)

namespace Tree

/-- A member of a node, read in each of the ways in which a node may use it. -/
structure Part where
  name : Text
  value : Json
  node : Tree
  nodes : List Tree

/-- The member of a node with a given name. -/
def part? (parts : List Part) (name : String) : Option Part :=
  parts.find? (·.name == Text.ofString name)

/-- The entries of a value: the items of an array, the characters of a text, the names of the
members of an object. -/
def entries? : Json → Option (List Json)
  | .array items => some items
  | .text t => some (t.map fun c => .text [c])
  | .object members => some (members.map fun (name, _) => .text name)
  | _ => none

/-- The condition that a field contains a term; without a list of fields it is about those that a
search looks at. -/
def ofContains (term : Json) (labels : Option Json) : Tree :=
  match labels with
  | none => .contains term (searchable.map .text)
  | some v =>
    match entries? v with
    | some items => .contains term items
    | none => .alien "dict"

/-- The tree of a node with given members. -/
def ofParts (parts : List Part) : Tree :=
  match (part? parts "t").map Part.value with
  | some (.text t) =>
    if t == Text.ofString "match_all" then .everything
    else if t == Text.ofString "contains" then
      match part? parts "term" with
      | some p => ofContains p.value ((part? parts "fields").map Part.value)
      | none => .alien "dict"
    else if t == Text.ofString "is_null" then
      match part? parts "field" with
      | some p => .isNull p.value
      | none => .alien "dict"
    else if t == Text.ofString "and" then
      match part? parts "children" with
      | some p => .all p.nodes
      | none => .alien "dict"
    else if t == Text.ofString "or" then
      match part? parts "children" with
      | some p => .any p.nodes
      | none => .alien "dict"
    else if t == Text.ofString "not" then
      match part? parts "child" with
      | some p => .not p.node
      | none => .alien "dict"
    else .alien "dict"
  | _ => .alien "dict"

mutual

/-- The tree that a JSON value is. -/
def ofJson : Json → Tree
  | .object members => ofParts (partsOf members)
  | v => .alien v.kindName

/-- The members of a node, read in every way. -/
def partsOf : List (Text × Json) → List Part
  | [] => []
  | (name, v) :: rest => ⟨name, v, ofJson v, childrenOf v⟩ :: partsOf rest

/-- The trees that the entries of a value are; those of texts and objects are no conditions. -/
def childrenOf : Json → List Tree
  | .array items => listOf items
  | .text t => t.map fun _ => .alien "str"
  | .object members => members.map fun _ => .alien "str"
  | _ => []

/-- The trees that several JSON values are. -/
def listOf : List Json → List Tree
  | [] => []
  | v :: rest => ofJson v :: listOf rest

end

/-- A text of which a member is wanted that only texts have. -/
def textWith (member : String) : Json → Except QueryError Text
  | .text t => .ok t
  | v => .error (.lacking (.value v.kindName) member)

/-- A text of which the lower-case form is wanted. -/
def lowerable (v : Json) : Except QueryError Text := textWith "lower" v

/-- A text that is to be searched. -/
def searchedText : Json → Except QueryError Text
  | .text t => .ok t
  | v => .error (.notText v.kindName)

/-- The name of a field. -/
def labelOf : Json → Except QueryError Text
  | .text t => .ok t
  | v => .error (.notName v.kindName)

/-- The names of stored columns. -/
def columnLabels : List Json → Except QueryError (List Text)
  | [] => .ok []
  | v :: rest =>
    match labelOf v with
    | .error e => .error e
    | .ok label =>
      match Clause.column label with
      | .error e => .error e
      | .ok _ =>
        match columnLabels rest with
        | .error e => .error e
        | .ok labels => .ok (label :: labels)

/-- The condition that one of some columns contains a term. The term does not matter if there are
no columns. -/
def containing (term : Json) : List Json → Except QueryError Predicate
  | [] => .ok (.contains [] [])
  | labels =>
    match lowerable term with
    | .error e => .error e
    | .ok t => (columnLabels labels).map (.contains t)

/-- The condition that a column is null. -/
def lackingColumn (label : Json) : Except QueryError Predicate :=
  match labelOf label with
  | .error e => .error e
  | .ok label => (Clause.nullTest label).map fun _ => .isNull label

mutual

/-- The condition on stored columns that a tree is, or the first part of it that is none or for which
there is no room. -/
def predicate (room : Nat) : Tree → Except QueryError Predicate
  | everything => calling 1 room fun _ => .ok .everything
  | contains term labels => calling 1 room fun _ => containing term labels
  | isNull label => calling 1 room fun _ => lackingColumn label
  | all children => calling translationCalls room fun room => (predicates room children).map .all
  | any children => calling translationCalls room fun room => (predicates room children).map .any
  | not child => calling 1 room fun room => (predicate room child).map .not
  | alien kind => calling 1 room fun _ => .error (.unsupported kind)

/-- The conditions that several trees are. -/
def predicates (room : Nat) : List Tree → Except QueryError (List Predicate)
  | [] => .ok []
  | t :: rest =>
    match predicate room t with
    | .error e => .error e
    | .ok p =>
      match predicates room rest with
      | .error e => .error e
      | .ok ps => .ok (p :: ps)

end

end Tree

namespace Predicate

mutual

/-- The tree of a condition. -/
def toJson : Predicate → Json
  | everything => .record [("t", .string "match_all")]
  | contains term labels =>
    .record [("t", .string "contains"), ("term", .text term), ("fields", .array (labels.map .text))]
  | isNull label => .record [("t", .string "is_null"), ("field", .text label)]
  | all children => .record [("t", .string "and"), ("children", .array (toJsonList children))]
  | any children => .record [("t", .string "or"), ("children", .array (toJsonList children))]
  | not child => .record [("t", .string "not"), ("child", toJson child)]

/-- The trees of several conditions. -/
def toJsonList : List Predicate → List Json
  | [] => []
  | p :: rest => toJson p :: toJsonList rest

end

end Predicate
end AddressBook.Search
