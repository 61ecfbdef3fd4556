import AddressBook.Bits
import AddressBook.Failure
import AddressBook.Store.Tables

/-!
Actions on the store. An action may fail; what it had written by then stays,
unless a savepoint or a transaction around it takes it back. Identifiers that
were given out are never given out again.
-/
namespace AddressBook

/-- A write to the store. -/
inductive Write where
  | insertContact (fields : Fields)
  | updateContact (id : Uuid)
  | insertSnapshot (contact : Uuid) (version : Int)
  | insertGroup (name : Text)
  | updateGroup (id : Uuid)
  | deleteGroup (id : Uuid)
  | insertMember (group contact : Uuid)
  | deleteMembers (group : Uuid)
  | insertUpload (filename : Text)
  | updateUpload (id : Uuid)
  | insertDisplay (key : Text)
  | updateDisplay (key : Text)
  | commit
deriving DecidableEq

/-- What an action meets: the time, which writes the store refuses, how it treats texts, and how far
conditions can be followed. -/
structure Conditions where
  now : Instant
  /-- The reason for which a write is refused, if it is; writes are numbered as they are tried. -/
  refusal : Nat → Write → Option Text
  dialect : Search.Dialect
  /-- How many calls a search can open inside one another. -/
  room : Nat

/-- Conditions under which no write is refused, every text is taken as it is, and searches have the
usual room. -/
def Conditions.fair (now : Instant) : Conditions :=
  ⟨now, fun _ _ => none, .plain, Search.usualRoom⟩

/-- How many identifiers of each kind were given out. -/
structure Issued where
  contacts : Nat := 0
  snapshots : Nat := 0
  groups : Nat := 0
  uploads : Nat := 0
deriving DecidableEq

/-- A report on the progress of an import. -/
structure Progress where
  processed : Int
  status : Option UploadStatus
deriving DecidableEq

/-- A change of a contact's fields that stands. -/
structure Revision where
  contact : Uuid
  /-- The version that the change brought to an end. -/
  version : Int
  /-- The values of the contact at that version. -/
  before : Fields
  /-- The values of the contact at the next version. -/
  after : Fields
  /-- Whether a snapshot of the values before could be written. -/
  kept : Bool
  time : Instant
deriving DecidableEq

/-- The store. -/
structure Store where
  tables : Tables := {}
  /-- The changes of contacts that stand, last first. No operation looks at it. -/
  journal : List Revision := []
  issued : Issued := {}
  /-- The number of writes tried so far. -/
  tried : Nat := 0
  /-- The progress reports so far, last first. -/
  progress : List Progress := []

/-- An action on the store. -/
abbrev Action := EStateM Failure Store

namespace Action

variable {α : Type}

/-- The present tables. -/
def tables : Action Tables := fun s => .ok s.tables s

/-- A change of the tables. -/
def change (f : Tables → Tables) : Action Unit := fun s => .ok () { s with tables := f s.tables }

/-- The try to write, which fails if the store refuses. -/
def attempt (env : Conditions) (w : Write) : Action Unit := fun s =>
  let s' := { s with tried := s.tried + 1 }
  match env.refusal s.tried w with
  | none => .ok () s'
  | some reason => .error (.storage reason) s'

/-- The use of an integer as a value of the store, which holds 64 bits of it. -/
def bindInteger (n : Int) : Action Unit := if fitsSigned n then pure () else throw .overflow

/-- The use of an instant as a value of the store, which holds the years 1 to 9999. -/
def bindInstant (t : Instant) : Action Unit := if t.isDated then pure () else throw .timeOutOfRange

/-- The use of a text as a value of the store, which may have no room for it. -/
def bindText (env : Conditions) (t : Text) : Action Unit :=
  match env.dialect.unfit t with
  | none => pure ()
  | some run => throw (.unencodable run)

/-- The use of texts, some of which may be missing, as values of the store. -/
def bindTexts (env : Conditions) : List (Option Text) → Action Unit
  | [] => pure ()
  | none :: rest => bindTexts env rest
  | some t :: rest => do
    bindText env t
    bindTexts env rest

/-- A new identifier for a contact. -/
def newContactId : Action Uuid := fun s =>
  let n := s.issued.contacts + 1
  .ok (.numbered 0xc0 n) { s with issued := { s.issued with contacts := n } }

/-- A new identifier for a snapshot. -/
def newSnapshotId : Action Uuid := fun s =>
  let n := s.issued.snapshots + 1
  .ok (.numbered 0xe0 n) { s with issued := { s.issued with snapshots := n } }

/-- A new identifier for a group. -/
def newGroupId : Action Uuid := fun s =>
  let n := s.issued.groups + 1
  .ok (.numbered 0xb0 n) { s with issued := { s.issued with groups := n } }

/-- A new identifier for an upload. -/
def newUploadId : Action Uuid := fun s =>
  let n := s.issued.uploads + 1
  .ok (.numbered 0xd0 n) { s with issued := { s.issued with uploads := n } }

/-- The entry of a change in the journal. -/
def note (r : Revision) : Action Unit := fun s => .ok () { s with journal := r :: s.journal }

/-- A progress report. -/
def report (p : Progress) : Action Unit := fun s =>
  .ok () { s with progress := p :: s.progress }

/-- The number of progress reports so far. -/
def reports : Action Nat := fun s => .ok s.progress.length s

/-- An action whose writes are taken back if it fails. -/
def savepoint (act : Action α) : Action α := fun s =>
  match act s with
  | .ok x s' => .ok x s'
  | .error e s' => .error e { s' with tables := s.tables, journal := s.journal }

/-- An action whose failure is a result. -/
def recover (act : Action α) : Action (Except Failure α) := fun s =>
  match act s with
  | .ok x s' => .ok (.ok x) s'
  | .error e s' => .ok (.error e) s'

/-- An action whose writes are kept if it and the commit behind it succeed, and taken back
otherwise. -/
def transaction (env : Conditions) (act : Action α) : Action α :=
  savepoint do
    let x ← act
    attempt env .commit
    return x

/-- The value of a computation that may fail. -/
def ofExcept {ε : Type} (failure : ε → Failure) : Except ε α → Action α
  | .ok x => pure x
  | .error e => throw (failure e)

end Action
end AddressBook
