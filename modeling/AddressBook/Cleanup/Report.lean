import AddressBook.Cleanup.Normal
import AddressBook.History
import AddressBook.Search.Like

/-!
Cleanup runs over the stored contacts. Each contact is cleaned on its own: one
that cannot be written is counted as an error and left as it was, and the run
goes on.
-/
namespace AddressBook.Cleanup

open AddressBook.Action

variable (env : Conditions)

/-- The outcome of a run: how many contacts were cleaned, how many failed, and a line for each. -/
structure Report where
  cleaned : Nat := 0
  errors : Nat := 0
  details : List Text := []
deriving DecidableEq

/-- Two runs as one. -/
def Report.merge (a b : Report) : Report :=
  ⟨a.cleaned + b.cleaned, a.errors + b.errors, a.details ++ b.details⟩

/-- The report with one more contact cleaned. -/
def Report.success (r : Report) (detail : Text) : Report :=
  { r with cleaned := r.cleaned + 1, details := r.details ++ [detail] }

/-- The report with one more error. -/
def Report.failure (r : Report) (detail : Text) : Report :=
  { r with errors := r.errors + 1, details := r.details ++ [detail] }

/-- The line of an error. -/
def errorLine (doing : String) (id : Uuid) (e : Failure) : Text :=
  Text.ofString ("Error " ++ doing ++ " ") ++ id.written ++ Text.ofString ": " ++ e.message.getD []

/-- Makes those changes of a contact that make a difference. -/
def apply (label : String) (r : Report) (c : Contact) (changes : Changes) : Action Report := do
  match changes.filter fun (f, v) => c.fields.get f != v with
  | [] => return r
  | needed =>
    match ← recover (savepoint (History.record env c needed)) with
    | .ok _ => return r.success (Text.ofString (label ++ " for contact ") ++ c.id.written)
    | .error e => return r.failure (errorLine "cleaning contact" c.id e)

/-- Makes the changes that a rule asks for in each contact of a list. -/
def applyEach (label : String) (rule : Fields → Changes) : List Contact → Report → Action Report
  | [], r => return r
  | c :: rest, r => do
    applyEach label rule rest (← apply env label r c (rule c.fields))

/-- Whether the store finds an escaped line break in an address. -/
def hasEscape : Option Text → Bool
  | none => false
  | some a => env.dialect.finds (Search.Like.escape lineEscape) a

/-- The rule for addresses. -/
def addressRule (v : Fields) : Changes :=
  match v.address with
  | none => []
  | some a => [(.address, some (address a))]

/-- The rule for contacts without a name or an e-mail address. -/
def emptyRule (v : Fields) : Changes :=
  let (name, email) := fillNameAndEmail v.name v.email
  [(.name, some name), (.email, email)]

/-- The change of a field to its normal form, if it has a value that is not empty. -/
def normalized (f : Field) (normal : Text → Text) (v : Fields) : Changes :=
  match present (v.get f) with
  | none => []
  | some t => [(f, some (normal t))]

/-- The rule for telephone numbers, names and e-mail addresses. -/
def normalRule (v : Fields) : Changes :=
  normalized .phone phone v ++ normalized .name name v ++ normalized .email email v

/-- Cleans the addresses that hold an escaped line break. -/
def addresses : Action Report := do
  let found := (← tables).contacts.filter fun c => hasEscape env c.fields.address
  applyEach env "Cleaned address" addressRule found {}

/-- Fills the missing names and e-mail addresses. -/
def emptyFields : Action Report := do
  let lacks (v : Option Text) : Bool := (present v).isNone
  let found := (← tables).contacts.filter fun c => lacks c.fields.name || lacks c.fields.email
  applyEach env "Cleaned empty fields" emptyRule found {}

/-- Puts a contact out of use because an older one has its e-mail address. -/
def dropDuplicate (r : Report) (c : Contact) (mail : Text) : Action Report := do
  match ← recover (savepoint (Contacts.setActive env c.id false)) with
  | .ok _ =>
    return r.success (Text.ofString "Removed duplicate contact " ++ c.id.written
      ++ Text.ofString " (email: " ++ mail ++ Text.ofString ")")
  | .error e => return r.failure (errorLine "removing duplicate" c.id e)

/-- Drops every contact of a list whose e-mail address was seen before. -/
def dropEach : List Contact → List Text → Report → Action Report
  | [], _, r => return r
  | c :: rest, seen, r => do
    let mail := email (c.fields.email.getD [])
    if mail.isEmpty then dropEach rest seen r
    else if seen.contains mail then dropEach rest seen (← dropDuplicate env r c mail)
    else dropEach rest (mail :: seen) r

/-- The contacts in use that have an e-mail address, oldest first. -/
def withEmail (t : Tables) : List Contact :=
  sortList (fun a b => a.created ≤ b.created)
    (t.contacts.filter fun c => c.active && c.fields.email.isSome)

/-- Keeps the oldest contact of each e-mail address in use. -/
def duplicates : Action Report := do
  dropEach env (withEmail (← tables)) [] {}

/-- Brings the contacts in use into normal form. -/
def normalForms : Action Report := do
  let found := (← tables).contacts.filter (·.active)
  applyEach env "General cleanup" normalRule found {}

/-- Every kind of cleanup, one after the other. -/
def general : Action Report := do
  let a ← addresses env
  let b ← emptyFields env
  let c ← duplicates env
  let d ← normalForms env
  return ((a.merge b).merge c).merge d

/-- A kind of cleanup. -/
inductive Kind where
  | addresses
  | emptyFields
  | duplicates
  | general
deriving DecidableEq

/-- Every kind of cleanup. -/
def Kind.all : List Kind := [addresses, emptyFields, duplicates, general]

/-- The name of a kind of cleanup. -/
def Kind.title : Kind → String
  | addresses => "address-cleanup"
  | emptyFields => "empty-fields"
  | duplicates => "duplicates"
  | general => "general"

/-- The kind of cleanup with a given name. -/
def Kind.ofLabel? (label : Text) : Option Kind :=
  all.find? fun k => Text.ofString k.title == label

/-- The failure that there is no kind of cleanup with a given name. -/
def unknownKind (label : Text) : Failure :=
  .domain (.invalid (Text.ofString "Invalid cleanup action: " ++ label)
    (some (Text.ofString "action")))

/-- Runs a kind of cleanup. -/
def run : Kind → Action Report
  | .addresses => addresses env
  | .emptyFields => emptyFields env
  | .duplicates => duplicates env
  | .general => general env

end AddressBook.Cleanup
