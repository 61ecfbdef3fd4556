import AddressBook.Search.Tree

/-!
Trying a tree of conditions on a record of JSON values. Parts are tried from left
to right and only as far as needed, so that a part that is no condition does no
harm where it is not reached.
-/
namespace AddressBook.Search.Tree

/-- What a record has under a name. -/
inductive Entry where
  | value (v : Json)
  /-- A part that is no JSON value. -/
  | part (holder : Holder)

/-- The entries of a record by name, in which null stands for everything that is missing. -/
abbrev JsonRecord := Text → Entry

/-- The record with the members of an object. Some parts that all records have are hidden by members
of their names, and some are not. -/
def recordOf (object : Json) : JsonRecord := fun label =>
  match fixedParts.find? label, object.member? label, hiddenParts.find? label with
  | some holder, _, _ => .part holder
  | none, some v, _ => .value v
  | none, none, some holder => .part holder
  | none, none, none =>
    .value (if label == descriptionName then .text recordDescription else .null)

/-- Whether an entry is null. -/
def isNone : Entry → Bool
  | .value .null => true
  | _ => false

/-- Whether an entry contains the term, which is in lower case already; null contains nothing. -/
def entryHolds (needle : Text) : Entry → Except QueryError Bool
  | .value .null => .ok false
  | .value v => (lowerable v).map fun value => needle.occursIn (Text.lower value)
  | .part holder => .error (.lacking holder "lower")

/-- Whether one of some fields contains the term, which is in lower case already. -/
def someHolds (record : JsonRecord) (needle : Text) : List Json → Except QueryError Bool
  | [] => .ok false
  | v :: rest =>
    match labelOf v with
    | .error e => .error e
    | .ok label =>
      match entryHolds needle (record label) with
      | .error e => .error e
      | .ok true => .ok true
      | .ok false => someHolds record needle rest

mutual

/-- The trial whether a record meets the condition that a tree is, with room for so many calls. -/
def tryOn (record : JsonRecord) (room : Nat) : Tree → Except QueryError Bool
  | everything => calling 1 room fun _ => .ok true
  | contains term labels => calling 1 room fun _ =>
    match lowerable term with
    | .error e => .error e
    | .ok t => someHolds record (Text.lower t) labels
  | isNull label => calling 1 room fun _ => (labelOf label).map fun label => isNone (record label)
  | all children => calling trialCalls room fun room => tryAll record room children
  | any children => calling trialCalls room fun room => tryAny record room children
  | not child => calling 1 room fun room => (tryOn record room child).map (! ·)
  | alien kind => .error (.lacking (.value kind) "matches")

/-- The trial whether a record meets every condition of a list. -/
def tryAll (record : JsonRecord) (room : Nat) : List Tree → Except QueryError Bool
  | [] => .ok true
  | t :: rest =>
    match tryOn record room t with
    | .error e => .error e
    | .ok false => .ok false
    | .ok true => tryAll record room rest

/-- The trial whether a record meets some condition of a list. -/
def tryAny (record : JsonRecord) (room : Nat) : List Tree → Except QueryError Bool
  | [] => .ok false
  | t :: rest =>
    match tryOn record room t with
    | .error e => .error e
    | .ok true => .ok true
    | .ok false => tryAny record room rest

end

/-- The answers of a tree for several records, or the first failure. -/
def tryOnEach (room : Nat) (t : Tree) : List JsonRecord → Except QueryError (List Bool)
  | [] => .ok []
  | record :: rest =>
    match tryOn record room t with
    | .error e => .error e
    | .ok b =>
      match tryOnEach room t rest with
      | .error e => .error e
      | .ok bs => .ok (b :: bs)

end AddressBook.Search.Tree
