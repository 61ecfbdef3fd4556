import AddressBook.Arguments
import AddressBook.Csv.Contacts
import AddressBook.Schema.Issue
import AddressBook.Search.Clause
import AddressBook.Text.Utf8
import AddressBook.Uuid

/-!
Everything that can go wrong in the service: errors of its own domain, which a
client can mend, and failures of the store or of a computation.
-/
namespace AddressBook

/-- A kind of domain error. -/
inductive ErrorKind where
  | general
  | notFound
  | contactNotFound
  | versionNotFound
  | invalid
  | snapshotFailed
  | querySyntax
deriving DecidableEq

/-- Every kind of domain error. -/
def ErrorKind.all : List ErrorKind :=
  [general, notFound, contactNotFound, versionNotFound, invalid, snapshotFailed, querySyntax]

/-- The name of a kind. -/
def ErrorKind.title : ErrorKind → String
  | general => "ContactVaultError"
  | notFound => "NotFoundError"
  | contactNotFound => "RecordNotFoundError"
  | versionNotFound => "VersionNotFoundError"
  | invalid => "ValidationError"
  | snapshotFailed => "SnapshotWriteFailed"
  | querySyntax => "InvalidQuerySyntax"

/-- The kind with a given name. -/
def ErrorKind.ofLabel? (label : Text) : Option ErrorKind :=
  all.find? fun k => Text.ofString k.title == label

/-- The kind that a kind is a special case of. -/
def ErrorKind.parent : ErrorKind → Option ErrorKind
  | general => none
  | contactNotFound => some notFound
  | versionNotFound => some notFound
  | notFound => some general
  | invalid => some general
  | snapshotFailed => some general
  | querySyntax => some general

/-- The more general kinds, nearest first. -/
def ErrorKind.ancestors (k : ErrorKind) : List ErrorKind :=
  match k.parent with
  | none => []
  | some p =>
    match p.parent with
    | none => [p]
    | some g => [p, g]

/-- An error of the domain. -/
inductive DomainError where
  | general (message : Text)
  | notFound (resource id : Text)
  | contactNotFound (id : Text)
  | versionNotFound (contact : Text) (version : Int)
  | invalid (message : Text) (field : Option Text)
  | snapshotFailed (contact : Text) (version : Int) (cause : Text)
  | querySyntax (message : Text)
deriving DecidableEq

namespace DomainError

/-- The kind of an error. -/
def kind : DomainError → ErrorKind
  | general _ => .general
  | notFound _ _ => .notFound
  | contactNotFound _ => .contactNotFound
  | versionNotFound _ _ => .versionNotFound
  | invalid _ _ => .invalid
  | snapshotFailed _ _ _ => .snapshotFailed
  | querySyntax _ => .querySyntax

/-- A contact and one of its versions in words. -/
def versionLabel (contact version : Text) (mark : String) : Text :=
  contact ++ Text.ofString mark ++ version

/-- An integer in words. -/
def integerText (n : Int) : Text := Text.ofString (toString n)

/-- The name for contacts that were looked for. -/
def contactResource : String := "Contact"

/-- The name for versions that were looked for. -/
def versionResource : String := "ContactVersion"

/-- The name of the thing that was looked for in vain. -/
def resource? : DomainError → Option Text
  | notFound resource _ => some resource
  | contactNotFound _ => some (Text.ofString contactResource)
  | versionNotFound _ _ => some (Text.ofString versionResource)
  | _ => none

/-- The identifier under which it was looked for. -/
def resourceId? : DomainError → Option Text
  | notFound _ id => some id
  | contactNotFound id => some id
  | versionNotFound contact version => some (versionLabel contact (integerText version) ":v")
  | _ => none

/-- That something was looked for in vain, in words. -/
def absenceText (resource id : Text) : Text := resource ++ Text.ofString " not found: " ++ id

/-- That the snapshot of a version could not be written, in words. -/
def snapshotText (label cause : Text) : Text :=
  Text.ofString "Snapshot write failed for " ++ label ++ Text.ofString ": " ++ cause

/-- The wording of an error. -/
def message : DomainError → Text
  | general m => m
  | invalid m _ => m
  | querySyntax m => m
  | snapshotFailed contact version cause =>
    snapshotText (versionLabel contact (integerText version) " v") cause
  | e => absenceText (e.resource?.getD []) (e.resourceId?.getD [])

end DomainError

/-- Why an operation was given up. -/
inductive Failure where
  | domain (error : DomainError)
  /-- A write was refused by the store, which gives its reason. -/
  | storage (reason : Text)
  /-- A write would have broken a rule that the store enforces. -/
  | integrity
  /-- A row that a rollback has made stale was read again. -/
  | stale
  | query (error : Search.QueryError)
  /-- Changes were asked for under names that are no fields. -/
  | unknownFields (names : List Text)
  | divisionByZero
  /-- A list was to be cut into batches of no rows. -/
  | emptyBatch
  /-- The store is not open. -/
  | closed
  /-- A request has faults. -/
  | malformed (issues : List Schema.Issue)
  /-- An answer would hold a number that is infinite or undefined. -/
  | unwritable
  /-- An answer would hold bytes that are no text. -/
  | undecodable (fault : Utf8.Fault)
  /-- A text that holds halves of surrogate pairs was to be put in bytes. -/
  | unencodable (run : Half.Run)
  /-- Something was given a wrong number of arguments. -/
  | miscounted (signature : Signature) (given : Nat)
  /-- The store was given an integer that it cannot hold. -/
  | overflow
  /-- The store was given a time that it cannot hold. -/
  | timeOutOfRange
  /-- The store was given a query that it cannot read. -/
  | unreadableQuery

namespace Failure

/-- The wording of a failure; failures inside the store have none. -/
def message : Failure → Option Text
  | domain e => some e.message
  | storage reason => some reason
  | integrity => none
  | stale => none
  | query e => e.message
  | unknownFields names =>
    some (Text.ofString "Not a versioned contact field: " ++ Text.join (Text.ofString ", ") names)
  | divisionByZero => some (Text.ofString "division by zero")
  | emptyBatch => some (Text.ofString "the batch size must not be zero")
  | closed => some (Text.ofString
      "Database has not been initialized. Call init_database() in the application lifespan handler.")
  | malformed _ => none
  | unwritable => some (Text.ofString "Out of range float values are not JSON compliant")
  | undecodable f => some f.message
  | unencodable r => some r.message
  | miscounted s given => some (Text.ofString (s.complaint given))
  | overflow => none
  | timeOutOfRange => none
  | unreadableQuery => none

/-- The failure that a document holds no contacts. -/
def ofImport (e : Csv.ImportError) : Failure :=
  .domain (.invalid (Text.ofString e.message) (some (Text.ofString "file")))

/-- The failure that there is no contact with an identifier. -/
def noContact (id : Uuid) : Failure := .domain (.contactNotFound id.written)

/-- The failure that there is no group with an identifier. -/
def noGroup (id : Uuid) : Failure :=
  .domain (.notFound (Text.ofString "ContactGroup") id.written)

end Failure
end AddressBook
