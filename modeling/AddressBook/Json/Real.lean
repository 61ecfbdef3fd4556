/-!
Binary floating-point numbers as exact values. A decimal numeral stands for the
nearest number with a 53-bit mantissa, ties going to the even one.
-/
namespace AddressBook

/-- A number with a fraction or an exponent, as JSON texts write it. -/
inductive Real where
  | finite (mantissa : Int) (exponent : Int)
  /-- Zero with a minus sign, which is the number zero. -/
  | negativeZero
  | infinite (negative : Bool)
  | undefined

namespace Real

/-- The integer nearest to a fraction, ties going to the even one. -/
def roundDiv (num den : Nat) : Nat :=
  let q := num / den
  let r := num % den
  if 2 * r < den || (2 * r == den && q % 2 == 0) then q else q + 1

/-- The fraction `num * 2 ^ shift / den`, as numerator and denominator. -/
def scaled (num den : Nat) (shift : Int) : Nat × Nat :=
  if 0 ≤ shift then (num * Nat.pow 2 shift.toNat, den) else (num, den * Nat.pow 2 (-shift).toNat)

/-- The exponent of the last mantissa bit of the number nearest to a positive fraction. -/
def lastBit (num den : Nat) : Int :=
  let guess : Int := (num.log2 : Int) - den.log2 - 52
  let (n, d) := scaled num den (-guess)
  max (-1074) (if n < d * 0x10000000000000 then guess - 1 else guess)

/-- The number with a given sign, mantissa and exponent. -/
def signed (negative : Bool) (mantissa : Nat) (exponent : Int) : Real :=
  if !negative then finite mantissa exponent
  else if mantissa == 0 then negativeZero
  else finite (-(mantissa : Int)) exponent

/-- The number nearest to a fraction. -/
def ofFraction (negative : Bool) (num den : Nat) : Real :=
  if num == 0 then signed negative 0 0
  else
    let e := lastBit num den
    let (n, d) := scaled num den (-e)
    let m := roundDiv n d
    if 1024 ≤ e + m.log2 then infinite negative else signed negative m e

/-- The number of decimal digits of a positive integer. -/
def decimalWidth (n : Nat) : Nat := (Nat.toDigits 10 n).length

/-- The number nearest to `digits * 10 ^ exponent`. -/
def ofDecimal (negative : Bool) (digits : Nat) (exponent : Int) : Real :=
  let magnitude := exponent + decimalWidth digits
  if digits == 0 || magnitude < -330 then signed negative 0 0
  else if 310 < magnitude then infinite negative
  else if 0 ≤ exponent then ofFraction negative (digits * Nat.pow 10 exponent.toNat) 1
  else ofFraction negative digits (Nat.pow 10 (-exponent).toNat)

/-- Whether a number is neither infinite nor undefined. -/
def isFinite : Real → Bool
  | finite _ _ | negativeZero => true
  | infinite _ | undefined => false

/-- The number nearest to a fraction that may be negative. -/
def ofRatio (num : Int) (den : Nat) : Real := ofFraction (num < 0) num.natAbs den

/-- The fraction that a finite number is. -/
def ratio? : Real → Option (Int × Nat)
  | finite m e => some (if 0 ≤ e then (m * Nat.pow 2 e.toNat, 1) else (m, Nat.pow 2 (-e).toNat))
  | negativeZero => some (0, 1)
  | infinite _ | undefined => none

/-- The number as an integer, if it is one. -/
def whole? (x : Real) : Option Int :=
  match x.ratio? with
  | some (num, den) => if num.fmod den == 0 then some (num.fdiv den) else none
  | none => none

/-- The least integer that is not below a finite number. -/
def ceil? (x : Real) : Option Int := x.ratio?.map fun (num, den) => -(-num).fdiv den

end Real
end AddressBook
