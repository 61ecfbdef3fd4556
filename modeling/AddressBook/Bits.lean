/-!
Integers of 64 bits.
-/
namespace AddressBook

/-- One more than the greatest integer that 64 bits hold, one of them for the sign. -/
def signedLimit : Int := 0x8000000000000000

/-- Whether 64 bits hold an integer, one of them for the sign. -/
def fitsSigned (n : Int) : Bool := -signedLimit ≤ n && n < signedLimit

end AddressBook
