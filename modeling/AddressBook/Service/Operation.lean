import AddressBook.Csv.Import
import AddressBook.Schema.Requests
import AddressBook.Service.Answer
import AddressBook.Store.Displays
import AddressBook.Store.Groups
import AddressBook.Text.Utf8

/-!
The operations of the service. Each of them is one transaction: what it writes is
kept as a whole, or not at all if it fails.
-/
namespace AddressBook

open AddressBook.Action

/-- Something that a client may ask of the service. -/
inductive Operation where
  | search (query : Text) (listing : Contacts.Listing)
  | matchingIds (request : Schema.IdSearch)
  | createContact (fields : Fields)
  | contact (id : Uuid)
  | updateContact (id : Uuid) (changes : Changes)
  | deleteContact (id : Uuid)
  | reactivateContact (id : Uuid)
  | versions (id : Uuid)
  | restoreVersion (id : Uuid) (version : Int)
  /-- The return of every contact in use to the values that it had at a time. -/
  | restoreAll (time : Instant)
  | groups
  | createGroup (request : Schema.NewGroup)
  | group (id : Uuid)
  | updateGroup (id : Uuid) (changes : Schema.GroupChanges)
  | deleteGroup (id : Uuid)
  | addMembers (group : Uuid) (contacts : List Uuid)
  | removeMembers (group : Uuid) (contacts : List Uuid)
  | display (key : Text)
  | updateDisplay (key : Text) (update : PreferencesUpdate)
  /-- The import of a document in UTF-8, in batches of the given size. -/
  | importCsv (filename : Text) (content : List UInt8) (size : Int)
  | uploads (count : Nat)
  | cleanup (label : Text)

namespace Operation

/-- Why changes of a group are not allowed: it would lose its name or its color. -/
def groupFault (changes : Schema.GroupChanges) : Option DomainError :=
  match changes.name, changes.color with
  | some none, _ | some (some []), _ =>
    some (.invalid (Text.ofString "Group name is required") (some (Text.ofString "name")))
  | _, some none =>
    some (.invalid (Text.ofString "Group color cannot be null") (some (Text.ofString "color")))
  | _, _ => none

/-- The answer that shows a group. -/
def showGroup (g : Group) : Action Answer := do
  return .group g ((← tables).memberCount g.id)

variable (env : Conditions)

/-- Changes a group. -/
def changeGroup (id : Uuid) (changes : Schema.GroupChanges) : Action Group := do
  match groupFault changes with
  | some e => throw (.domain e)
  | none => Groups.update env id changes.name.join changes.description changes.color.join

/-- The display preferences under a key, which are the default ones at first. -/
def preferences (key : Text) : Action Display := do
  match ← Displays.find? key with
  | some d => return d
  | none => Displays.create env key {}

/-- Changes the display preferences under a key. -/
def changePreferences (key : Text) (u : PreferencesUpdate) : Action Display := do
  match ← Displays.find? key with
  | some d => Displays.update env d u
  | none => Displays.create env key (Preferences.apply {} u)

/-- The failure that a document is not in UTF-8. -/
def notUtf8 : Failure :=
  .domain (.invalid (Text.ofString "CSV body must be UTF-8 encoded") (some (Text.ofString "file")))

/-- Imports a document that is given in bytes. -/
def importBytes (filename : Text) (content : List UInt8) (size : Int) : Action Upload := do
  match Utf8.text? content with
  | none => throw notUtf8
  | some t => Csv.run env filename t size

/-- Runs the cleanup of a given name. -/
def clean (label : Text) : Action Answer := do
  match Cleanup.Kind.ofLabel? label with
  | none => throw (Cleanup.unknownKind label)
  | some kind => return .report kind (← Cleanup.run env kind)

/-- What an operation does and answers. -/
def run : Operation → Action Answer
  | search query listing => return .page (← Contacts.search env query listing)
  | matchingIds r => return .identifiers (← Contacts.findIds env (Search.compile r.search) r.group)
  | createContact fields => return .contact (← Contacts.create env fields none)
  | contact id => do
    let c ← Contacts.get id
    return .detail c (← History.versions id)
  | updateContact id changes => do
    let c ← Contacts.get id
    return .contact (← History.record env c changes)
  | deleteContact id => return .contact (← Contacts.setActive env id false)
  | reactivateContact id => return .contact (← Contacts.setActive env id true)
  | versions id => return .history (← History.versions id)
  | restoreVersion id version => return .contact (← History.restore env id version)
  | restoreAll time => return .restored (← History.restoreAll env time)
  | groups => do
    let all ← Groups.all
    let t ← tables
    return .groups (all.map fun g => (g, t.memberCount g.id))
  | createGroup r => return .group (← Groups.create env r.name r.description r.color) 0
  | group id => do showGroup (← Groups.get id)
  | updateGroup id changes => do showGroup (← changeGroup env id changes)
  | deleteGroup id => do
    Groups.delete env id
    return .done
  | addMembers id contacts => return .membership id (← Groups.addMembers env id contacts)
  | removeMembers id contacts => return .membership id (← Groups.removeMembers env id contacts)
  | display key => return .display (← preferences env key)
  | updateDisplay key u => return .display (← changePreferences env key u)
  | importCsv filename content size => return .upload (← importBytes env filename content size)
  | uploads count => return .uploads (← Uploads.recent count)
  | cleanup label => clean env label

/-- An operation as one transaction. -/
def perform (op : Operation) : Action Answer := transaction env (run env op)

end Operation
end AddressBook
