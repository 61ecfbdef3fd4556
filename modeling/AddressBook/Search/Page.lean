import AddressBook.Json.Real
import AddressBook.Store.Find

/-!
One page of the contacts that a search text selects, with the number of pages
there are.
-/
namespace AddressBook

open AddressBook.Action

/-- A page of contacts. -/
structure Page where
  contacts : List Contact
  /-- The number of this page, counted from one. -/
  number : Int
  /-- The number of contacts on a full page. -/
  size : Int
  /-- The number of contacts on all pages. -/
  total : Nat
deriving DecidableEq

/-- The number of pages: the number of contacts over the page size, rounded up. The quotient is a
floating-point number, and so has been rounded already. -/
def Page.count (p : Page) : Int :=
  ((Real.ofFraction (p.size < 0) p.total p.size.natAbs).ceil?).getD 0

/-- The page that a listing asks for of the contacts that a search text selects. -/
def Contacts.search (env : Conditions) (query : Text) (l : Listing) : Action Page := do
  let (contacts, total) ← find env (Search.compile query) l
  if l.size == 0 then throw .divisionByZero
  return ⟨contacts, l.page, l.size, total⟩

end AddressBook
