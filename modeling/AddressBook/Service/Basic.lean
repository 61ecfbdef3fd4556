import AddressBook.Service.Operation
import AddressBook.Settings

/-!
The service: the store, whether it is open, and the settings in force.
-/
namespace AddressBook

/-- The service and all that lasts from one request to the next. -/
structure Service where
  store : Store := {}
  /-- Whether the store can be used. -/
  running : Bool := true
  /-- The settings in force; without any, each request uses the default ones. -/
  chosen : Option Settings := some {}

namespace Service

/-- The settings that a request uses. -/
def settings (s : Service) : Settings := s.chosen.getD {}

/-- The service after it was closed. What is stored stays. -/
def stop (s : Service) : Service := { s with running := false }

/-- The service after it was opened, with the default settings. Nothing happens if it is open. -/
def start (s : Service) : Service :=
  if s.running then s else { s with running := true, chosen := some {} }

/-- The result of an action on the store, and the service after it. -/
def run {α : Type} (s : Service) (act : Action α) : Except Failure α × Service :=
  if s.running then
    match act s.store with
    | .ok x store => (.ok x, { s with store })
    | .error e store => (.error e, { s with store })
  else (.error .closed, s)

end Service
end AddressBook
