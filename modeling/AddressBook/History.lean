import AddressBook.Store.Snapshots

/-!
The version history of contacts. Before the fields of a contact change, their
values are kept as a snapshot under the present version; the change then makes
the next version. Returning to old values is a change like any other, so versions
only ever grow. A snapshot that cannot be written does not hold up the change.
-/
namespace AddressBook.History

open AddressBook.Action

variable (env : Conditions)

/-- The snapshot of a contact's present values, if it could be written. -/
def keep (c : Contact) : Action (Option Snapshot) := do
  match ← recover (Snapshots.create env c.id c.version c.fields env.now) with
  | .ok s => return some s
  | .error _ => return none

/-- Changes the fields of a contact as its next version. -/
def record (c : Contact) (changes : Changes) : Action Contact := do
  let kept ← keep env c
  let c' ← Contacts.applyChanges env c changes (c.version + 1)
  note ⟨c.id, c.version, c.fields, c'.fields, kept.isSome, env.now⟩
  return c'

/-- The changes that named values ask for. Names that are no fields are reported in order. -/
def changesOf (values : List (Text × Option Text)) : Except Failure Changes :=
  match (values.map (·.1)).filter fun name => (Field.ofLabel? name).isNone with
  | [] => .ok (values.filterMap fun (name, v) => (Field.ofLabel? name).map (·, v))
  | names => .error (.unknownFields (sortList Text.precedes names))

/-- The failure that a contact has no snapshot of a version. -/
def noVersion (contact : Uuid) (version : Int) : Failure :=
  .domain (.versionNotFound contact.written version)

/-- Gives a contact the values that it had at a version. -/
def restore (id : Uuid) (version : Int) : Action Contact := do
  let c ← Contacts.get id
  match ← Snapshots.find? id version with
  | none => throw (noVersion id version)
  | some s => record env c s.fields.toChanges

/-- Gives a contact the values of its latest snapshot by a certain time, and tells whether they
differ from the present ones. -/
def restoreTo (time : Instant) (c : Contact) : Action Bool := do
  match ← Snapshots.latest? c.id time with
  | none => return false
  | some s =>
    if s.fields = c.fields then return false
    let _ ← record env c s.fields.toChanges
    return true

/-- Restores contacts one by one, each on its own, and counts those that changed. -/
def restoreEach (time : Instant) : List Contact → Nat → Action Nat
  | [], n => return n
  | c :: rest, n => do
    match ← recover (savepoint (restoreTo env time c)) with
    | .ok true => restoreEach time rest (n + 1)
    | _ => restoreEach time rest n

/-- The contacts in use that were created by a certain time, oldest first. -/
def existingAt (t : Tables) (time : Instant) : List Contact :=
  sortList (fun a b => a.created ≤ b.created)
    (t.contacts.filter fun c => c.active && c.created ≤ time)

/-- Restores every contact in use to a point in time, and counts those that changed. -/
def restoreAll (time : Instant) : Action Nat := do
  bindInstant time
  restoreEach env time (existingAt (← tables) time) 0

/-- The snapshots of a contact, highest version first. -/
def versions (id : Uuid) : Action (List Snapshot) := do
  let _ ← Contacts.get id
  return (← tables).history id

end AddressBook.History
