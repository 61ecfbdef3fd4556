import AddressBook.Cleanup.Report
import AddressBook.Json.Basic
import AddressBook.Search.Page

/-!
What operations answer, and the JSON form in which clients see it.
-/
namespace AddressBook

/-- The answer to an operation. -/
inductive Answer where
  | contact (c : Contact)
  /-- A contact with its snapshots, highest version first. -/
  | detail (c : Contact) (history : List Snapshot)
  | page (p : Page)
  | identifiers (ids : List Uuid)
  | history (snapshots : List Snapshot)
  /-- How many contacts a restore has changed. -/
  | restored (count : Nat)
  /-- A group with the number of its members. -/
  | group (g : Group) (members : Nat)
  | groups (gs : List (Group × Nat))
  /-- How many contacts were added to a group or removed from it. -/
  | membership (group : Uuid) (affected : Nat)
  | display (d : Display)
  | upload (u : Upload)
  | uploads (us : List Upload)
  | report (kind : Cleanup.Kind) (r : Cleanup.Report)
  /-- Nothing but that the operation is done. -/
  | done
deriving DecidableEq

/-- An identifier in JSON. -/
def Uuid.toJson (u : Uuid) : Json := .text u.written

/-- An instant in JSON. -/
def Instant.toJson (t : Instant) : Json := .string t.written

/-- The five fields as members of an object. -/
def Fields.members (v : Fields) : List (String × Json) :=
  Field.all.map fun f => (f.title, .optional .text (v.get f))

/-- A contact as members of an object. -/
def Contact.members (c : Contact) : List (String × Json) :=
  [("id", c.id.toJson)] ++ c.fields.members ++
    [("version", .int c.version), ("is_active", .bool c.active),
      ("upload_id", .optional Uuid.toJson c.upload), ("created_at", c.created.toJson),
      ("updated_at", c.updated.toJson)]

/-- A snapshot in JSON. -/
def Snapshot.toJson (s : Snapshot) : Json :=
  .record ([("id", s.id.toJson), ("contact_id", s.contact.toJson), ("version", .int s.version)]
    ++ s.fields.members ++ [("created_at", s.taken.toJson)])

/-- The place of a page in JSON. -/
def Page.place (p : Page) : Json :=
  .record [("page", .int p.number), ("limit", .int p.size), ("total", .int p.total),
    ("pages", .int p.count)]

/-- A group in JSON, with the number of its members. -/
def Group.toJson (g : Group) (members : Nat) : Json :=
  .record [("id", g.id.toJson), ("name", .text g.name),
    ("description", .optional .text g.description), ("color", .text g.color),
    ("member_count", .int members), ("created_at", g.created.toJson),
    ("updated_at", g.updated.toJson)]

/-- The choices for the display as members of an object. -/
def Preferences.members (p : Preferences) : List (String × Json) :=
  [("show_name", .bool p.showName), ("show_email", .bool p.showEmail),
    ("show_phone", .bool p.showPhone), ("show_address", .bool p.showAddress),
    ("show_notes", .bool p.showNotes), ("terse_display", .bool p.terse),
    ("items_per_page", .int p.itemsPerPage), ("sort_by", .string p.sortBy.title),
    ("sort_order", .string p.sortOrder.title)]

/-- An upload in JSON. -/
def Upload.toJson (u : Upload) : Json :=
  .record [("id", u.id.toJson), ("filename", .text u.filename), ("total_contacts", .int u.total),
    ("processed_contacts", .int u.processed), ("status", .string u.status.title),
    ("created_at", u.created.toJson)]

/-- A cleanup report in JSON. -/
def Cleanup.Report.toJson (r : Report) (kind : Kind) : Json :=
  .record [("action", .string kind.title), ("cleaned", .int r.cleaned), ("errors", .int r.errors),
    ("details", .array (r.details.map .text))]

/-- An answer in JSON. -/
def Answer.toJson : Answer → Json
  | contact c => .record c.members
  | detail c snapshots =>
    .record (c.members ++ [("versions", .array (snapshots.map Snapshot.toJson))])
  | page p =>
    .record [("contacts", .array (p.contacts.map fun c => .record c.members)),
      ("pagination", p.place)]
  | identifiers ids => .record [("contact_ids", .array (ids.map Uuid.toJson))]
  | history snapshots => .array (snapshots.map Snapshot.toJson)
  | restored count => .record [("restored", .int count)]
  | group g members => g.toJson members
  | groups gs => .array (gs.map fun (g, members) => g.toJson members)
  | membership id affected => .record [("group_id", id.toJson), ("affected", .int affected)]
  | display d => .record (("user_key", .text d.key) :: d.preferences.members)
  | upload u => u.toJson
  | uploads us => .array (us.map Upload.toJson)
  | report kind r => r.toJson kind
  | done => .null

end AddressBook
