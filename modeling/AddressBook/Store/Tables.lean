import AddressBook.Contact.Basic
import AddressBook.Display.Preferences
import AddressBook.Sequence

/-!
The stored rows, table by table, in the order in which they were inserted.
-/
namespace AddressBook

/-- How far an upload has come. -/
inductive UploadStatus where
  | processing
  | completed
  | failed
deriving DecidableEq

/-- The name of an upload status. -/
def UploadStatus.title : UploadStatus → String
  | processing => "processing"
  | completed => "completed"
  | failed => "failed"

/-- One import of a document. -/
structure Upload where
  id : Uuid
  filename : Text
  /-- The number of rows in the document. -/
  total : Int
  /-- The number of rows imported so far. -/
  processed : Int
  status : UploadStatus
  created : Instant
  updated : Instant
deriving DecidableEq

/-- A named group of contacts. -/
structure Group where
  id : Uuid
  name : Text
  description : Option Text
  color : Text
  created : Instant
  updated : Instant
deriving DecidableEq

/-- The membership of a contact in a group. -/
structure Membership where
  contact : Uuid
  group : Uuid
  created : Instant
  updated : Instant
deriving DecidableEq

/-- The display preferences kept under a key. -/
structure Display where
  key : Text
  preferences : Preferences
  created : Instant
  updated : Instant
deriving DecidableEq

/-- All stored rows. -/
structure Tables where
  contacts : List Contact := []
  snapshots : List Snapshot := []
  groups : List Group := []
  members : List Membership := []
  uploads : List Upload := []
  displays : List Display := []
deriving DecidableEq

namespace Tables

variable (t : Tables)

/-- The contact with an identifier. -/
def contact? (id : Uuid) : Option Contact := t.contacts.find? (·.id == id)

/-- The group with an identifier. -/
def group? (id : Uuid) : Option Group := t.groups.find? (·.id == id)

/-- The display preferences under a key. -/
def display? (key : Text) : Option Display := t.displays.find? (·.key == key)

/-- The tables with the contact row of the same identifier replaced. -/
def setContact (c : Contact) : Tables :=
  { t with contacts := t.contacts.map fun x => if x.id == c.id then c else x }

/-- The tables with the group row of the same identifier replaced. -/
def setGroup (g : Group) : Tables :=
  { t with groups := t.groups.map fun x => if x.id == g.id then g else x }

/-- The tables with the upload row of the same identifier replaced. -/
def setUpload (u : Upload) : Tables :=
  { t with uploads := t.uploads.map fun x => if x.id == u.id then u else x }

/-- The tables with the display row of the same key replaced. -/
def setDisplay (d : Display) : Tables :=
  { t with displays := t.displays.map fun x => if x.key == d.key then d else x }

/-- The snapshots of a contact, highest version first. -/
def history (id : Uuid) : List Snapshot :=
  sortList (fun a b => b.version ≤ a.version) (t.snapshots.filter (·.contact == id))

/-- The members of a group. -/
def memberIds (group : Uuid) : List Uuid :=
  (t.members.filter (·.group == group)).map (·.contact)

/-- The number of members of a group. -/
def memberCount (group : Uuid) : Nat := (t.memberIds group).length

end Tables
end AddressBook
