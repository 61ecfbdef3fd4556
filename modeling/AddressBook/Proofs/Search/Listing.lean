import AddressBook.Contact.Sorting
import AddressBook.Proofs.Sequence

/-!
The order of listings: by the values of the key, in either direction, and by identifiers among
contacts with one value. Missing values are the least.
-/
namespace AddressBook

/-- Texts are ordered by code points, and a missing value is less than any text. -/
def Ahead : Option Text → Option Text → Prop
  | none, some _ => True
  | some s, some t => s < t
  | _, none => False

/-- A contact has a smaller value of the key than another. -/
def SortKey.Less (k : SortKey) (a b : Contact) : Prop :=
  match k with
  | field f => Ahead (a.fields.get f) (b.fields.get f)
  | created => a.created < b.created
  | updated => a.updated < b.updated

/-- Two contacts have the same value of the key. -/
def SortKey.Tied (k : SortKey) (a b : Contact) : Prop :=
  match k with
  | field f => a.fields.get f = b.fields.get f
  | created => a.created = b.created
  | updated => a.updated = b.updated

/-- A contact stands before another by the key. -/
def SortOrder.Parts (o : SortOrder) (k : SortKey) (a b : Contact) : Prop :=
  match o with
  | ascending => k.Less a b
  | descending => k.Less b a

variable {k : SortKey} {o : SortOrder} {a b c : Contact} {s t : Text} {x y z : Option Text}

/-! ### Values -/

theorem Ahead.trans (h : Ahead x y) (h' : Ahead y z) : Ahead x z := by
  match x, y, z with
  | none, some _, some _ => trivial
  | some _, some _, some _ => exact List.lt_trans h h'

theorem SortKey.Less.trans (h : k.Less a b) (h' : k.Less b c) : k.Less a c := by
  cases k with
  | field f => exact Ahead.trans h h'
  | created => exact Int.lt_trans h h'
  | updated => exact Int.lt_trans h h'

theorem SortKey.Tied.refl (k : SortKey) (a : Contact) : k.Tied a a := by
  cases k <;> exact rfl

theorem SortKey.Tied.symm (h : k.Tied a b) : k.Tied b a := by
  cases k <;> exact Eq.symm h

theorem SortKey.Tied.trans (h : k.Tied a b) (h' : k.Tied b c) : k.Tied a c := by
  cases k <;> exact Eq.trans h h'

theorem SortOrder.Parts.trans (h : o.Parts k a b) (h' : o.Parts k b c) : o.Parts k a c := by
  cases o with
  | ascending => exact SortKey.Less.trans h h'
  | descending => exact SortKey.Less.trans h' h

end AddressBook
