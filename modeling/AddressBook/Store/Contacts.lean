import AddressBook.Store.Action

/-!
Stored contacts: finding them by identifier, and every way in which one is
written.
-/
namespace AddressBook.Contacts

open AddressBook.Action

variable (env : Conditions)

/-- The contact with an identifier, in use or not. -/
def get (id : Uuid) : Action Contact := do
  match (← tables).contact? id with
  | some c => return c
  | none => throw (.noContact id)

/-- A new row, which counts as unchanged since its creation. -/
def insert (fields : Fields) (version : Int) (active : Bool) (upload : Option Uuid)
    (created : Instant) : Action Contact := do
  attempt env (.insertContact fields)
  let c : Contact := ⟨← newContactId, fields, version, active, upload, created, created⟩
  bindInstant created
  bindTexts env fields.values
  bindInteger version
  change fun t => { t with contacts := t.contacts ++ [c] }
  return c

/-- A new contact at its first version. -/
def create (fields : Fields) (upload : Option Uuid) : Action Contact :=
  insert env fields 1 true upload env.now

/-- The changes of a contact's fields, together with its new version. -/
def applyChanges (c : Contact) (changes : Changes) (version : Int) : Action Contact := do
  attempt env (.updateContact c.id)
  let fields := c.fields.apply changes
  bindTexts env fields.values
  bindInteger version
  let c' := { c with fields, version, updated := env.now }
  change (·.setContact c')
  return c'

/-- Puts a contact in use or out of use. If it is so already, the store may refuse the try, but
nothing is written. -/
def setActive (id : Uuid) (active : Bool) : Action Contact := do
  let c ← get id
  attempt env (.updateContact id)
  if c.active == active then return c
  let c' := { c with active, updated := env.now }
  change (·.setContact c')
  return c'

end AddressBook.Contacts
