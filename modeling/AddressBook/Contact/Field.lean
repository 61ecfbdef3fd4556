import AddressBook.Text.Basic

/-!
The five text fields of a contact. They are what a search looks at and what a
version snapshot keeps.
-/
namespace AddressBook

/-- A text field of a contact. -/
inductive Field where
  | name
  | email
  | phone
  | address
  | notes
deriving DecidableEq

namespace Field

/-- Every field, in the order in which fields are listed. -/
def all : List Field := [name, email, phone, address, notes]

/-- The name under which a field is known outside. -/
def title : Field → String
  | name => "name"
  | email => "email"
  | phone => "phone"
  | address => "address"
  | notes => "notes"

/-- The name of a field as text. -/
def label (f : Field) : Text := Text.ofString f.title

/-- The field with a given name. -/
def ofLabel? (t : Text) : Option Field := all.find? (·.label == t)

end Field

/-- The values of the five fields; an absent value is `none`, which differs from empty text. -/
structure Fields where
  name : Option Text := none
  email : Option Text := none
  phone : Option Text := none
  address : Option Text := none
  notes : Option Text := none
deriving DecidableEq

namespace Fields

/-- The value of a field. -/
def get (v : Fields) : Field → Option Text
  | .name => v.name
  | .email => v.email
  | .phone => v.phone
  | .address => v.address
  | .notes => v.notes

/-- The values with one field changed. -/
def set (v : Fields) : Field → Option Text → Fields
  | .name, x => { v with name := x }
  | .email, x => { v with email := x }
  | .phone, x => { v with phone := x }
  | .address, x => { v with address := x }
  | .notes, x => { v with notes := x }

/-- The values of all fields in order. -/
def values (v : Fields) : List (Option Text) := Field.all.map v.get

/-- The values given by a function on the fields. -/
def ofFunction (value : Field → Option Text) : Fields :=
  ⟨value .name, value .email, value .phone, value .address, value .notes⟩

/-- The value of a field by name; a name that is no field has none. -/
def lookup (v : Fields) (label : Text) : Option Text := (Field.ofLabel? label).bind v.get

end Fields

/-- New values for some fields, applied in order. -/
abbrev Changes := List (Field × Option Text)

/-- The values after the changes. -/
def Fields.apply (v : Fields) (changes : Changes) : Fields :=
  changes.foldl (fun v (f, x) => v.set f x) v

/-- Changes that set every field to the given values. -/
def Fields.toChanges (v : Fields) : Changes := Field.all.map fun f => (f, v.get f)

end AddressBook
