import AddressBook.Contact.Sorting

/-!
How contact lists are displayed: the choices, their defaults, and partial
updates of them.
-/
namespace AddressBook

/-- The choices for the display of contact lists. -/
structure Preferences where
  showName : Bool := true
  showEmail : Bool := true
  showPhone : Bool := true
  showAddress : Bool := true
  showNotes : Bool := false
  terse : Bool := false
  itemsPerPage : Int := 20
  sortBy : SortKey := .field .name
  sortOrder : SortOrder := .ascending
deriving DecidableEq

/-- New values for some of the choices. -/
structure PreferencesUpdate where
  showName : Option Bool := none
  showEmail : Option Bool := none
  showPhone : Option Bool := none
  showAddress : Option Bool := none
  showNotes : Option Bool := none
  terse : Option Bool := none
  itemsPerPage : Option Int := none
  sortBy : Option SortKey := none
  sortOrder : Option SortOrder := none
deriving DecidableEq

/-- The choices after an update. -/
def Preferences.apply (p : Preferences) (u : PreferencesUpdate) : Preferences where
  showName := u.showName.getD p.showName
  showEmail := u.showEmail.getD p.showEmail
  showPhone := u.showPhone.getD p.showPhone
  showAddress := u.showAddress.getD p.showAddress
  showNotes := u.showNotes.getD p.showNotes
  terse := u.terse.getD p.terse
  itemsPerPage := u.itemsPerPage.getD p.itemsPerPage
  sortBy := u.sortBy.getD p.sortBy
  sortOrder := u.sortOrder.getD p.sortOrder

end AddressBook
