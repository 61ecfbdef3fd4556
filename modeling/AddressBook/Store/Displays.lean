import AddressBook.Store.Action

/-!
Stored display preferences, one row a key.
-/
namespace AddressBook.Displays

open AddressBook.Action

variable (env : Conditions)

/-- The row under a key. -/
def find? (key : Text) : Action (Option Display) := do
  return (← tables).display? key

/-- A new row; the store accepts one under each key. -/
def create (key : Text) (preferences : Preferences) : Action Display := do
  attempt env (.insertDisplay key)
  if ((← tables).display? key).isSome then throw .integrity
  let d : Display := ⟨key, preferences, env.now, env.now⟩
  change fun t => { t with displays := t.displays ++ [d] }
  return d

/-- The row after an update. Nothing is written if no choice differs. -/
def update (d : Display) (u : PreferencesUpdate) : Action Display := do
  let preferences := d.preferences.apply u
  if preferences = d.preferences then return d
  attempt env (.updateDisplay d.key)
  let d' := { d with preferences, updated := env.now }
  change (·.setDisplay d')
  return d'

end AddressBook.Displays
