import AddressBook.Search.Query
import AddressBook.Sequence
import AddressBook.Store.Action

/-!
Finding contacts in use by a condition, as one page of a sorted listing or as all
their identifiers.
-/
namespace AddressBook.Contacts

open AddressBook.Action Search

variable (env : Conditions)

/-- Whether a contact belongs to a group; no group means any contact. -/
def inGroup (t : Tables) (group : Option Uuid) (c : Contact) : Bool :=
  match group with
  | none => true
  | some g => (t.memberIds g).contains c.id

/-- The contacts in use that a clause selects, within a group if one is given. -/
def selected (t : Tables) (clause : Clause) (group : Option Uuid) : List Contact :=
  t.contacts.filter fun c => c.active && clause.selects env.dialect c && inGroup t group c

/-- Whether the value of a clause can be found for each contact in use, within a group if one is
given. -/
def answerable (t : Tables) (clause : Clause) (group : Option Uuid) : Bool :=
  t.contacts.all fun c =>
    !(c.active && inGroup t group c && clause.breaksOff env.dialect (Column.value c))

/-- What a listing is sorted by, and which part of it is wanted. -/
structure Listing where
  key : SortKey := .field .name
  order : SortOrder := .ascending
  /-- The number of the page, counted from one. -/
  page : Int := 1
  /-- The number of contacts on a page; a negative number means all that follow. -/
  size : Int := 20
  group : Option Uuid := none

/-- The number of contacts before the page; none are if it is negative. -/
def Listing.offset (l : Listing) : Int := (l.page - 1) * l.size

/-- The part of a list that a listing asks for. -/
def Listing.slice {α : Type} (l : Listing) (xs : List α) : List α :=
  let rest := xs.drop l.offset.toNat
  if l.size < 0 then rest else rest.take l.size.toNat

/-- The clause of a condition, which a query joins to conditions of its own. -/
def clauseOf (p : Predicate) : Action Clause := do
  let clause ← ofExcept Failure.query (Clause.ofPredicate env.room p)
  if !Clause.allReadable true [clause] then throw .unreadableQuery
  bindTexts env (clause.bound.map fun (_, escaped) => some escaped)
  return clause

/-- The contacts in use that a clause selects, within a group if one is given, if the store can tell
them. -/
def select (clause : Clause) (group : Option Uuid) : Action (List Contact) := do
  let t ← tables
  if !answerable env t clause group then throw .unreadableQuery
  return selected env t clause group

/-- The contacts on a page of the matching ones, and the number of all matching ones. -/
def find (p : Predicate) (l : Listing) : Action (List Contact × Nat) := do
  let clause ← clauseOf env p
  bindInteger l.offset
  bindInteger l.size
  let found ← select env clause l.group
  return (l.slice (sortList (listedBefore l.key l.order) found), found.length)

/-- The identifiers of all matching contacts. -/
def findIds (p : Predicate) (group : Option Uuid) : Action (List Uuid) := do
  let clause ← clauseOf env p
  return (← select env clause group).map (·.id)

end AddressBook.Contacts
