import AddressBook.Cleanup.Report
import AddressBook.Schema.Value

/-!
The shapes of the answers of the service. An answer that is given from outside is
read part by part, as leniently as a request, and brought into the form in which
the service gives it.
-/
namespace AddressBook.Schema

/-- A part of an answer: its name, how it is brought into form, and what it is if it is left out. -/
structure Part where
  name : String
  form : Reader Json
  default : Option Json := none

namespace Part

/-- A part that is a text. -/
def word (name : String) : Part := ⟨name, fun v => (text v).map .text, none⟩

/-- A part that is a text or null. -/
def wordOrNull (name : String) : Part :=
  ⟨name, fun v => (nullable text v).map (.optional .text), none⟩

/-- A part that is an integer. -/
def number (name : String) : Part := ⟨name, fun v => (integer v).map .int, none⟩

/-- A part that is a truth value. -/
def flag (name : String) : Part := ⟨name, fun v => (boolean v).map .bool, none⟩

/-- An identifier in the form in which answers show it. -/
def idJson (u : Uuid) : Json := .text u.written

/-- A part that is an identifier. -/
def id (name : String) : Part := ⟨name, fun v => (identifier v).map idJson, none⟩

/-- A part that is an identifier or null. -/
def idOrNull (name : String) : Part :=
  ⟨name, fun v => (nullable identifier v).map (.optional idJson), none⟩

/-- A part that is a date-time. -/
def moment (name : String) : Part := ⟨name, fun v => (dateTime false v).map (.string ·.written), none⟩

/-- A part that is a list of values of one form. -/
def list (name : String) (form : Reader Json) (default : Option Json := none) : Part :=
  ⟨name, fun v => (listOf form v).map .array, default⟩

/-- A part brought into form. -/
def read (p : Part) (m : Members) : Checked Json :=
  match p.default with
  | none => required p.name p.form m
  | some v => defaulted p.name p.form v m

end Part

/-- The parts of an answer. -/
abbrev Shape := List Part

namespace Shape

/-- An answer brought into form, given its members. -/
def read (s : Shape) (m : Members) : Checked Json :=
  (Checked.list (s.map (·.read m))).map fun values => .record ((s.map Part.name).zip values)

/-- An answer inside another one. -/
def form (s : Shape) : Reader Json
  | .object m => s.read m
  | v => .fail .notObject v

/-- The five fields of a contact. -/
def fields : Shape := Field.all.map fun f => .wordOrNull f.title

/-- A contact. -/
def contact : Shape :=
  [.id "id"] ++ fields ++ [.number "version", .flag "is_active", .idOrNull "upload_id",
    .moment "created_at", .moment "updated_at"]

/-- A snapshot of a contact. -/
def snapshot : Shape :=
  [.id "id", .id "contact_id", .number "version"] ++ fields ++ [.moment "created_at"]

/-- A contact with its snapshots. -/
def detail : Shape := contact ++ [.list "versions" snapshot.form (some (.array []))]

/-- The place of a page. -/
def place : Shape := [.number "page", .number "limit", .number "total", .number "pages"]

/-- A page of contacts. -/
def page : Shape := [.list "contacts" contact.form, ⟨"pagination", place.form, none⟩]

/-- The identifiers of contacts. -/
def identifiers : Shape := [.list "contact_ids" (Part.id "").form]

/-- The number of contacts that a restore has changed. -/
def restored : Shape := [.number "restored"]

/-- A group. -/
def group : Shape :=
  [.id "id", .word "name", .wordOrNull "description", .word "color",
    { Part.number "member_count" with default := some (.int 0) }, .moment "created_at",
    .moment "updated_at"]

/-- The number of contacts added to a group or removed from it. -/
def membership : Shape := [.id "group_id", .number "affected"]

/-- Display preferences. -/
def display : Shape :=
  [.word "user_key", .flag "show_name", .flag "show_email", .flag "show_phone",
    .flag "show_address", .flag "show_notes", .flag "terse_display", .number "items_per_page",
    .word "sort_by", .word "sort_order"]

/-- An upload. -/
def upload : Shape :=
  [.id "id", .word "filename", .number "total_contacts", .number "processed_contacts",
    .word "status", .moment "created_at"]

/-- A kind of cleanup. -/
def kind : Part :=
  ⟨"action", fun v =>
    (choice (Cleanup.Kind.all.map Cleanup.Kind.title) Cleanup.Kind.ofLabel? v).map fun k =>
      .string k.title, none⟩

/-- A cleanup report. -/
def report : Shape :=
  [kind, .number "cleaned", .number "errors", .list "details" (Part.word "").form (some (.array []))]

end Shape
end AddressBook.Schema
