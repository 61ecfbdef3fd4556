import AddressBook.Contact.Field
import AddressBook.Display.Preferences
import AddressBook.Schema.Value

/-!
The requests of the service, read from the members of a JSON object. Members
that a request does not name are passed over.
-/
namespace AddressBook.Schema

/-- The greatest number of characters in a field, where there is one. -/
def fieldLimit : Field → Option Nat
  | .name => some 255
  | .email => some 320
  | .phone => some 64
  | .address => none
  | .notes => none

/-- A field value, which may be null. -/
def fieldValue (f : Field) : Reader (Option Text) :=
  match fieldLimit f with
  | some most => nullable (boundedText 0 most)
  | none => nullable text

/-- The fields of a new contact. -/
def newContact (m : Members) : Checked Fields :=
  let value (f : Field) := defaulted f.title (fieldValue f) none m
  Checked.on (Checked.on (Checked.on (Checked.on (Checked.on (.ok Fields.mk)
    (value .name)) (value .email)) (value .phone)) (value .address)) (value .notes)

/-- The changes of a contact: those fields that are given. -/
def contactChanges (m : Members) : Checked Changes :=
  (Checked.list (Field.all.map fun f => given f.title (fieldValue f) m)).map fun values =>
    (Field.all.zip values).filterMap fun (f, value) => value.map (f, ·)

/-- A search for the identifiers of all matching contacts. -/
structure IdSearch where
  search : Text
  group : Option Uuid

/-- The request for all matching contacts. -/
def idSearch (m : Members) : Checked IdSearch :=
  Checked.on (Checked.on (.ok IdSearch.mk)
    (defaulted "search" text [] m)) (defaulted "group_id" (nullable identifier) none m)

/-- A contact and the version that it is to return to. -/
structure VersionRestore where
  contact : Uuid
  version : Int

/-- The request to return to a version. -/
def versionRestore (m : Members) : Checked VersionRestore :=
  Checked.on (Checked.on (.ok VersionRestore.mk)
    (required "contact_id" identifier m)) (required "version" (integerFrom 1) m)

/-- The request to return to a date; `wide` allows integers of more than 64 bits. -/
def dateRestore (wide : Bool) (m : Members) : Checked DateTime := required "date" (dateTime wide) m

/-- A new group. -/
structure NewGroup where
  name : Text
  description : Option Text
  color : Text

/-- The color of groups for which none is chosen. -/
def defaultColor : Text := Text.ofString "#007AFF"

/-- The request for a new group. -/
def newGroup (m : Members) : Checked NewGroup :=
  Checked.on (Checked.on (Checked.on (.ok NewGroup.mk)
    (required "name" (boundedText 1 255) m))
    (defaulted "description" (nullable text) none m))
    (defaulted "color" (boundedText 0 16) defaultColor m)

/-- New values for some properties of a group; a property may be given as null. -/
structure GroupChanges where
  name : Option (Option Text)
  description : Option (Option Text)
  color : Option (Option Text)

/-- The request to change a group. -/
def groupChanges (m : Members) : Checked GroupChanges :=
  Checked.on (Checked.on (Checked.on (.ok GroupChanges.mk)
    (given "name" (nullable (boundedText 1 255)) m))
    (given "description" (nullable text) m))
    (given "color" (nullable (boundedText 0 16)) m)

/-- The request to add or remove members of a group. -/
def memberIds (m : Members) : Checked (List Uuid) := required "contact_ids" (listOf identifier) m

/-- The request to change display preferences; a null changes nothing. -/
def preferencesUpdate (m : Members) : Checked PreferencesUpdate :=
  let flag (name : String) := defaulted name (nullable boolean) none m
  Checked.on (Checked.on (Checked.on (Checked.on (Checked.on (Checked.on (Checked.on (Checked.on
    (Checked.on (.ok PreferencesUpdate.mk)
    (flag "show_name")) (flag "show_email")) (flag "show_phone")) (flag "show_address"))
    (flag "show_notes")) (flag "terse_display"))
    (defaulted "items_per_page" (nullable (integerWithin 1 500)) none m))
    (defaulted "sort_by" (nullable (choice SortKey.titles SortKey.ofLabel?)) none m))
    (defaulted "sort_order" (nullable (choice SortOrder.titles SortOrder.ofLabel?)) none m)

end AddressBook.Schema
