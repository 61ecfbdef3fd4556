import AddressBook.Store.Action

/-!
Planned failures of the store, by which it can be tried out how operations behave
when writes are refused.
-/
namespace AddressBook

/-- Which writes of contacts and snapshots are to be refused. -/
structure Faults where
  /-- The names of the contacts that are not inserted. -/
  inserts : List Text := []
  /-- The written identifiers of the contacts whose row is not updated. -/
  updates : List Text := []
  /-- The written identifiers of the contacts of which no snapshot is taken. -/
  snapshots : List Text := []

namespace Faults

/-- The name by which a plan refers to contacts; those without a name share one. -/
def planName (fields : Fields) : Text := fields.name.getD (Text.ofString "None")

/-- The reason for which a write is refused. -/
def refusal (f : Faults) : Write → Option Text
  | .insertContact fields =>
    if f.inserts.contains (planName fields) then
      some (Text.ofString "insert failed for " ++ planName fields)
    else none
  | .updateContact id =>
    if f.updates.contains id.written then some (Text.ofString "write failed for " ++ id.written)
    else none
  | .insertSnapshot contact _ =>
    if f.snapshots.contains contact.written then some (Text.ofString "snapshot store unavailable") else none
  | _ => none

/-- The conditions at a time under a plan of failures, in a store whose ways with texts are
bounded. -/
def conditions (f : Faults) (now : Instant) : Conditions :=
  ⟨now, fun _ w => f.refusal w, .bounded, Search.usualRoom⟩

end Faults
end AddressBook
