import AddressBook.Store.Contacts

/-!
Stored snapshots. They are inserted and never changed or removed.
-/
namespace AddressBook.Snapshots

open AddressBook.Action

variable (env : Conditions)

/-- Whether the store accepts a snapshot: its contact exists and has none of that version. -/
def admissible (t : Tables) (contact : Uuid) (version : Int) : Bool :=
  (t.contact? contact).isSome
    && !t.snapshots.any fun s => s.contact == contact && s.version == version

/-- A new snapshot; if it cannot be inserted, nothing is written. -/
def create (contact : Uuid) (version : Int) (fields : Fields) (taken : Instant) :
    Action Snapshot :=
  savepoint do
    attempt env (.insertSnapshot contact version)
    let s : Snapshot := ⟨← newSnapshotId, contact, version, fields, taken⟩
    bindInstant taken
    bindInteger version
    if !admissible (← tables) contact version then throw .integrity
    change fun t => { t with snapshots := t.snapshots ++ [s] }
    return s

/-- The snapshot of a version. -/
def find? (contact : Uuid) (version : Int) : Action (Option Snapshot) := do
  bindInteger version
  return (← tables).snapshots.find? fun s => s.contact == contact && s.version == version

/-- The snapshot of the highest version among those taken by a certain time. -/
def latest? (contact : Uuid) (time : Instant) : Action (Option Snapshot) := do
  bindInstant time
  return ((← tables).history contact).find? (·.taken ≤ time)

end AddressBook.Snapshots
