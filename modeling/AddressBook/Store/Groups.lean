import AddressBook.Sequence
import AddressBook.Store.Action

/-!
Stored groups and their members.
-/
namespace AddressBook.Groups

open AddressBook.Action

variable (env : Conditions)

/-- The group with an identifier. -/
def get (id : Uuid) : Action Group := do
  match (← tables).group? id with
  | some g => return g
  | none => throw (.noGroup id)

/-- A new group. -/
def create (name : Text) (description : Option Text) (color : Text) : Action Group := do
  attempt env (.insertGroup name)
  let g : Group := ⟨← newGroupId, name, description, color, env.now, env.now⟩
  bindTexts env [name, description, color]
  change fun t => { t with groups := t.groups ++ [g] }
  return g

/-- All groups by name. -/
def all : Action (List Group) := do
  return sortList (fun a b => Text.precedes a.name b.name) (← tables).groups

/-- New values for the properties that are given. Nothing is written if none differs. -/
def update (id : Uuid) (name : Option Text) (description : Option (Option Text))
    (color : Option Text) : Action Group := do
  let g ← get id
  let g' := { g with
    name := name.getD g.name
    description := description.getD g.description
    color := color.getD g.color }
  if g' = g then return g
  attempt env (.updateGroup id)
  bindTexts env [g'.name, g'.description, g'.color]
  let g' := { g' with updated := env.now }
  change (·.setGroup g')
  return g'

/-- Removes a group and its memberships. -/
def delete (id : Uuid) : Action Unit := do
  let _ ← get id
  attempt env (.deleteMembers id)
  change fun t => { t with members := t.members.filter (·.group != id) }
  attempt env (.deleteGroup id)
  change fun t => { t with groups := t.groups.filter (·.id != id) }

/-- Whether the store accepts a membership: contact and group exist, and no row has both of them. -/
def admissible (t : Tables) (group contact : Uuid) : Bool :=
  (t.contact? contact).isSome && (t.group? group).isSome
    && !t.members.any fun m => m.contact == contact && m.group == group

/-- A new membership. -/
def addMember (group contact : Uuid) : Action Unit := do
  attempt env (.insertMember group contact)
  if !admissible (← tables) group contact then throw .integrity
  change fun t => { t with members := t.members ++ [⟨contact, group, env.now, env.now⟩] }

/-- New memberships of several contacts. -/
def addEach (group : Uuid) : List Uuid → Action Unit
  | [] => return
  | c :: rest => do
    addMember env group c
    addEach group rest

/-- Makes contacts members of a group, and tells how many of them are members then. -/
def addMembers (group : Uuid) (contacts : List Uuid) : Action Nat := do
  let _ ← get group
  let wanted := distinct contacts
  let present := (← tables).memberIds group
  addEach env group (wanted.filter (!present.contains ·))
  return wanted.length

/-- Ends the membership of contacts in a group, and tells how many memberships ended. -/
def removeMembers (group : Uuid) (contacts : List Uuid) : Action Nat := do
  let _ ← get group
  attempt env (.deleteMembers group)
  let leaving (m : Membership) : Bool := m.group == group && contacts.contains m.contact
  let t ← tables
  change fun t => { t with members := t.members.filter (!leaving ·) }
  return (t.members.filter leaving).length

end AddressBook.Groups
