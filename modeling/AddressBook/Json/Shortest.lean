import AddressBook.Json.Real
import AddressBook.Text.Decimal

/-!
Decimals for real numbers. Of the decimals that are read back as a number those
with the fewest digits count, and of these the nearest. It is found by trying one
digit, two digits and so on: on each grid of decimals only the two neighbours of
the number can be the nearest.
-/
namespace AddressBook.Real

/-- A decimal: some digits times a power of ten. -/
structure Decimal where
  digits : Nat
  power : Int
deriving DecidableEq

/-- A positive number and the ends of the span of all that is read back as it, in units of a power
of two. -/
structure Span where
  low : Nat
  value : Nat
  high : Nat
  /-- Whether the ends belong to the span. -/
  closed : Bool
  /-- The power of two that is the unit. -/
  unit : Int

/-- The least mantissa that has all bits. -/
def leastFull : Nat := 0x10000000000000

/-- The span of a positive number. The number below is half as far away as the number above if the
mantissa is the least one. -/
def span (mantissa : Nat) (exponent : Int) : Span :=
  let (m, e) := if mantissa == 2 * leastFull then (leastFull, exponent + 1) else (mantissa, exponent)
  ⟨if m == leastFull && -1074 < e then 4 * m - 1 else 4 * m - 2, 4 * m, 4 * m + 2, m % 2 == 0, e - 2⟩

/-- A power of ten in units of a span, as numerator and denominator. -/
def Span.step (s : Span) (power : Int) : Nat × Nat :=
  (Nat.pow 10 power.toNat * Nat.pow 2 (-s.unit).toNat,
    Nat.pow 10 (-power).toNat * Nat.pow 2 s.unit.toNat)

/-- Whether a decimal is read back as the number of a span. -/
def Span.holds (s : Span) (d : Decimal) : Bool :=
  let (num, den) := s.step d.power
  let x := d.digits * num
  if s.closed then s.low * den ≤ x && x ≤ s.high * den else s.low * den < x && x < s.high * den

/-- The nearest of the decimals with a given power that are read back as the number of a span; of
two that are as near the even one. -/
def Span.nearest? (s : Span) (power : Int) : Option Decimal :=
  let (num, den) := s.step power
  let below := s.value * den / num
  let up := num < 2 * (s.value * den % num) || (num == 2 * (s.value * den % num) && below % 2 == 1)
  match s.holds ⟨below, power⟩, s.holds ⟨below + 1, power⟩ with
  | false, false => none
  | true, false => some ⟨below, power⟩
  | false, true => some ⟨below + 1, power⟩
  | true, true => some ⟨if up then below + 1 else below, power⟩

/-- The power of ten of the first digit of a positive fraction. -/
def firstPower (num den : Nat) : Int :=
  let width : Int := (decimalWidth num : Int) - decimalWidth den
  if den * Nat.pow 10 width.toNat ≤ num * Nat.pow 10 (-width).toNat then width else width - 1

/-- The greatest number of digits that a number needs. -/
def mostDigits : Nat := 17

/-- Ten times a power of ten is one times the next. This is the only last zero among the shortest
decimals: any other is found with one digit less. -/
def Decimal.carried (d : Decimal) : Decimal :=
  if d.digits = 10 then ⟨1, d.power + 1⟩ else d

/-- The shortest decimal of a positive number; all its digits if none is short enough. -/
def shortest (mantissa : Nat) (exponent : Int) : Decimal :=
  let num := mantissa * Nat.pow 2 exponent.toNat
  let first := firstPower num (Nat.pow 2 (-exponent).toNat)
  match (List.range mostDigits).findSome? fun (i : Nat) => (span mantissa exponent).nearest? (first - i) with
  | some d => d.carried
  | none => ⟨num * Nat.pow 5 (-exponent).toNat, min 0 exponent⟩

/-- Zeros in a row. -/
def zeros (n : Int) : Text := List.replicate n.toNat '0'

/-- A decimal in positional notation, with at least one place behind the point. -/
def Decimal.positional (d : Decimal) : Text :=
  let digits := (toString d.digits).toList
  if 0 ≤ d.power then digits ++ zeros d.power ++ Text.ofString ".0"
  else
    let padded := zeros (1 - d.power - digits.length) ++ digits
    let whole := padded.length - (-d.power).toNat
    padded.take whole ++ '.' :: padded.drop whole

/-- A decimal with one digit before the point and a signed exponent of two digits or more. -/
def Decimal.scientific (d : Decimal) : Text :=
  let digits := (toString d.digits).toList
  let exponent := d.power + digits.length - 1
  digits.take 1 ++ (if digits.length = 1 then [] else '.' :: digits.drop 1)
    ++ ['e', if exponent < 0 then '-' else '+'] ++ (Text.padded 2 exponent.natAbs).toList

/-- A decimal as it is written: positional if its first digit stands for a power of ten from −4 to
15. -/
def Decimal.written (d : Decimal) : Text :=
  let first := d.power + (toString d.digits).length - 1
  if -4 ≤ first && first < 16 then d.positional else d.scientific

/-- A number as it is written, with words for what no decimal is. -/
def written (infinity undefinedWord : String) : Real → Text
  | negativeZero => Text.ofString "-0.0"
  | infinite negative => (if negative then ['-'] else []) ++ Text.ofString infinity
  | undefined => Text.ofString undefinedWord
  | finite m e =>
    if m = 0 then Text.ofString "0.0"
    else (if m < 0 then ['-'] else []) ++ (shortest m.natAbs e).written

end AddressBook.Real
