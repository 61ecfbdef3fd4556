import AddressBook.Contact.Basic
import AddressBook.Search.Predicate

/-!
What a condition can name of a stored contact: its columns, and other names, some
of which stand for texts that are the same for all contacts.
-/
namespace AddressBook.Search

/-- A text that is the same for all contacts and can be compared like a column. -/
inductive Constant where
  | table
  | name
  | fullName
  | source
  | description
deriving DecidableEq

namespace Constant

/-- Every constant. -/
def all : List Constant := [table, name, fullName, source, description]

/-- The name under which a constant is known. -/
def title : Constant → String
  | table => "__tablename__"
  | name => "__name__"
  | fullName => "__qualname__"
  | source => "__module__"
  | description => "__doc__"

/-- The lines of the description of a contact. -/
def descriptionLines : List String := [
  "A contact with versioned text attributes.",
  "",
  "    Every field mutation first snapshots the current values into a",
  "    ContactVersion and then increments `version`. Soft delete only flips",
  "    `is_active` and does not create a version.",
  "",
  "    Attributes:",
  "        name: Display name.",
  "        email: Primary e-mail address.",
  "        phone: Primary phone number.",
  "        address: Postal address, may span several lines.",
  "        notes: Free-text notes.",
  "        version: Monotonically increasing version, starts at 1.",
  "        is_active: False once the contact has been soft-deleted.",
  "        upload_id: CSV upload that created this contact, if any.",
  "    "]

/-- The text of a constant. -/
def text : Constant → String
  | table => "cv_contacts"
  | name | fullName => "Contact"
  | source => "contact_vault.core.models"
  | description => "\n".intercalate descriptionLines

end Constant

/-- A stored column of a contact, or a text that can be compared like one. -/
inductive Column where
  | field (f : Field)
  | id
  | version
  | active
  | upload
  | created
  | updated
  | constant (c : Constant)
deriving DecidableEq

namespace Column

/-- Every column and constant. -/
def all : List Column :=
  Field.all.map field ++ [id, version, active, upload, created, updated]
    ++ Constant.all.map constant

/-- The name of a column in the store. -/
def title : Column → String
  | field f => f.title
  | id => "id"
  | version => "version"
  | active => "is_active"
  | upload => "upload_id"
  | created => "created_at"
  | updated => "updated_at"
  | constant c => c.title

/-- The name of the table of contacts. -/
def tableName : String := Constant.table.text

/-- The column with a given name. -/
def ofLabel? (label : Text) : Option Column := all.find? fun c => Text.ofString c.title == label

/-- The text in a column of a contact, if the column is not null. Identifiers are kept as digits
alone, and instants in full to the microsecond. -/
def value (c : Contact) : Column → Option Text
  | field f => c.fields.get f
  | id => some c.id.digits
  | version => some (Text.ofString (toString c.version))
  | active => some (if c.active then ['1'] else ['0'])
  | upload => c.upload.map Uuid.digits
  | created => some (Text.ofString c.created.full)
  | updated => some (Text.ofString c.updated.full)
  | constant k => some (Text.ofString k.text)

end Column

/-- A contact as a record for conditions. -/
def recordOf (c : Contact) : Record := fun label => (Column.ofLabel? label).bind (Column.value c)

end AddressBook.Search
