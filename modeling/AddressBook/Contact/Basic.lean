import AddressBook.Contact.Field
import AddressBook.Time.Instant
import AddressBook.Uuid

/-!
Contacts and the snapshots of their earlier versions.
-/
namespace AddressBook

/-- A contact with its present field values. -/
structure Contact where
  id : Uuid
  fields : Fields
  /-- One at creation, and one more after every change of the fields. -/
  version : Int
  /-- Whether the contact is in use; a deleted contact is only put out of use. -/
  active : Bool
  /-- The upload that the contact came from, if any. -/
  upload : Option Uuid
  created : Instant
  updated : Instant
deriving DecidableEq

/-- The field values of a contact at one of its earlier versions. -/
structure Snapshot where
  id : Uuid
  contact : Uuid
  version : Int
  fields : Fields
  taken : Instant
deriving DecidableEq

end AddressBook
