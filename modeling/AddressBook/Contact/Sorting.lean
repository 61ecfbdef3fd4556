import AddressBook.Contact.Basic

/-!
Orders in which contacts are listed. Missing values come before all others;
contacts with equal values are listed by ascending identifier, whatever the
direction.
-/
namespace AddressBook

/-- What contacts are sorted by. -/
inductive SortKey where
  | field (f : Field)
  | created
  | updated
deriving DecidableEq

/-- The direction of a listing. -/
inductive SortOrder where
  | ascending
  | descending
deriving DecidableEq

namespace SortKey

/-- Every key. -/
def all : List SortKey := Field.all.map field ++ [created, updated]

/-- The name of a key. -/
def title : SortKey → String
  | field f => f.title
  | created => "created_at"
  | updated => "updated_at"

/-- The names of all keys. -/
def titles : List String := all.map title

/-- The key with a given name. -/
def ofLabel? (label : Text) : Option SortKey := all.find? fun k => Text.ofString k.title == label

/-- The key with a given name; by any other name contacts are sorted by theirs. -/
def ofLabel (label : Text) : SortKey := (ofLabel? label).getD (field .name)

end SortKey

namespace SortOrder

/-- Both directions. -/
def all : List SortOrder := [ascending, descending]

/-- The name of a direction. -/
def title : SortOrder → String
  | ascending => "asc"
  | descending => "desc"

/-- The names of both directions. -/
def titles : List String := all.map title

/-- The direction with a given name. -/
def ofLabel? (label : Text) : Option SortOrder :=
  all.find? fun o => Text.ofString o.title == label

/-- The direction with a given name; any other name means ascending. -/
def ofLabel (label : Text) : SortOrder := (ofLabel? label).getD ascending

end SortOrder

/-- How two values compare: texts by code points, a missing value first. -/
def compareText : Option Text → Option Text → Ordering
  | none, none => .eq
  | none, some _ => .lt
  | some _, none => .gt
  | some s, some t => if s == t then .eq else if Text.precedes s t then .lt else .gt

/-- How two contacts compare by a key. -/
def SortKey.compare (k : SortKey) (a b : Contact) : Ordering :=
  match k with
  | field f => compareText (a.fields.get f) (b.fields.get f)
  | created => Ord.compare a.created b.created
  | updated => Ord.compare a.updated b.updated

/-- Whether a contact may be listed before another. -/
def listedBefore (k : SortKey) (o : SortOrder) (a b : Contact) : Bool :=
  match k.compare a b, o with
  | .lt, .ascending => true
  | .gt, .ascending => false
  | .lt, .descending => false
  | .gt, .descending => true
  | .eq, _ => a.id.value ≤ b.id.value

end AddressBook
