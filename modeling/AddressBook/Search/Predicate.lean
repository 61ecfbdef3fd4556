import AddressBook.Contact.Field
import AddressBook.Search.Room
import AddressBook.Text.Case

/-!
Conditions on a record, what it means for a record to meet one, and how this is tried with limited
room for calls. Comparison ignores letter case; a field without a value contains no term.
-/
namespace AddressBook.Search

/-- A condition on a record. Fields are given by name. -/
inductive Predicate where
  | everything
  | contains (term : Text) (fields : List Text)
  | isNull (field : Text)
  | all (children : List Predicate)
  | any (children : List Predicate)
  | not (child : Predicate)

/-- A record as a search sees it: the text under each name, if there is one. -/
abbrev Record := Text → Option Text

/-- The names of the fields that a search looks at when none are given. -/
def searchable : List Text := Field.all.map Field.label

/-- Whether a field value contains the term, which is in lower case already. -/
def holds (needle : Text) : Option Text → Bool
  | none => false
  | some value => needle.occursIn (Text.lower value)

namespace Predicate

/-- The condition that a searchable field contains the term. -/
def mentions (term : Text) : Predicate := contains term searchable

mutual

/-- The calls that are open where a condition is followed deepest, if each of its lists takes
`perList` of them. -/
def depth (perList : Nat) : Predicate → Nat
  | everything | contains _ _ | isNull _ => 1
  | all children | any children => perList + depthOfAll perList children
  | not child => 1 + depth perList child

/-- The calls that are open where several conditions are followed deepest. -/
def depthOfAll (perList : Nat) : List Predicate → Nat
  | [] => 0
  | p :: rest => max (depth perList p) (depthOfAll perList rest)

end

mutual

/-- Whether a record meets the condition, however deep it is nested. -/
def holdsFor (record : Record) : Predicate → Bool
  | everything => true
  | contains term fields => fields.any fun f => holds (Text.lower term) (record f)
  | isNull field => (record field).isNone
  | all children => allHoldFor record children
  | any children => anyHoldsFor record children
  | not child => !holdsFor record child

/-- Whether a record meets every condition of a list. -/
def allHoldFor (record : Record) : List Predicate → Bool
  | [] => true
  | p :: rest => holdsFor record p && allHoldFor record rest

/-- Whether a record meets some condition of a list. -/
def anyHoldsFor (record : Record) : List Predicate → Bool
  | [] => false
  | p :: rest => holdsFor record p || anyHoldsFor record rest

end

mutual

/-- The trial whether a record meets the condition, with room for so many calls. -/
def tryOn (record : Record) (room : Nat) : Predicate → Except QueryError Bool
  | everything => calling 1 room fun _ => .ok true
  | contains term fields => calling 1 room fun _ =>
    .ok (fields.any fun f => holds (Text.lower term) (record f))
  | isNull field => calling 1 room fun _ => .ok (record field).isNone
  | all children => calling trialCalls room fun room => tryAll record room children
  | any children => calling trialCalls room fun room => tryAny record room children
  | not child => calling 1 room fun room => (tryOn record room child).map (! ·)

/-- The trial whether a record meets every condition of a list, up to the first that it does not
meet. -/
def tryAll (record : Record) (room : Nat) : List Predicate → Except QueryError Bool
  | [] => .ok true
  | p :: rest =>
    match tryOn record room p with
    | .error e => .error e
    | .ok false => .ok false
    | .ok true => tryAll record room rest

/-- The trial whether a record meets some condition of a list, up to the first that it meets. -/
def tryAny (record : Record) (room : Nat) : List Predicate → Except QueryError Bool
  | [] => .ok false
  | p :: rest =>
    match tryOn record room p with
    | .error e => .error e
    | .ok true => .ok true
    | .ok false => tryAny record room rest

end

end Predicate
end AddressBook.Search
