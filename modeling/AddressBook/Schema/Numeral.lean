import AddressBook.Text.Blank
import AddressBook.Text.Decimal

/-!
Integers as requests write them in text. A numeral may have blanks around it, a
sign, zeros in front, single underscores between its digits, and zeros behind a
decimal point. It is reduced step by step to a sign and digits, which are then
read exactly.
-/
namespace AddressBook.Schema.Numeral

/-- Blanks around a numeral: all but the four separators of information. -/
def isOuterBlank (c : Char) : Bool := Text.isBlank c && !(0x1C ≤ c.toNat && c.toNat ≤ 0x1F)

/-- A text without the blanks around it. -/
def withoutBlanks (t : Text) : Text :=
  ((t.dropWhile isOuterBlank).reverse.dropWhile isOuterBlank).reverse

/-- A text without a plus sign in front, behind which no minus sign may stand. -/
def withoutPlus : Text → Option Text
  | '+' :: '-' :: _ => none
  | '+' :: rest => some rest
  | t => some t

/-- Whether a numeral without zeros in front may start with a character. -/
def isLead (c : Char) : Bool := c == '-' || ('1' ≤ c && c ≤ '9')

/-- What is left of a numeral behind zeros and underscores, of which `last` is the last so far. A
zero alone is kept, and so is one before a decimal point. -/
def behindZeros (last : Char) : Text → Option Text
  | [] => some [last]
  | c :: rest =>
    if c == '0' || c == '_' then behindZeros c rest
    else if isLead c then some (c :: rest)
    else if c == '.' then some (last :: c :: rest)
    else none

/-- A numeral without the zeros in front. -/
def withoutZeros : Text → Option Text
  | [] => none
  | c :: rest =>
    if c == '0' then behindZeros c rest else if isLead c then some (c :: rest) else none

/-- A numeral without its decimal point and the zeros behind it. It stays as it is if anything else
stands there, or nothing at all. -/
def withoutPlaces (t : Text) : Text :=
  let whole := t.takeWhile (· != '.')
  let places := t.drop (whole.length + 1)
  if !places.isEmpty && places.all (· == '0') then whole else t

/-- A numeral without its underscores, if each of them stands alone between other characters. -/
def ungrouped (t : Text) : Text :=
  let groups := Text.pieces (· == '_') t
  if groups.all (! ·.isEmpty) then groups.flatten else t

/-- Whether a minus sign stands in front of a numeral, and what follows it. -/
def signAndRest : Text → Bool × Text
  | '-' :: rest => (true, rest)
  | t => (false, t)

/-- A numeral reduced to a sign and digits, if it has the form of one. The sign is put aside while
what follows it is reduced. -/
def reduced? (t : Text) : Option Text :=
  (withoutPlus (withoutBlanks t)).bind fun t =>
    let (negative, magnitude) := signAndRest t
    (withoutZeros magnitude).map fun m =>
      let m := ungrouped (withoutPlaces m)
      if negative then '-' :: m else m

/-- Why a text is not read as an integer. -/
inductive Defect where
  | unreadable
  /-- It has too many digits to be looked at. -/
  | oversized
deriving DecidableEq

/-- The greatest number of digits in a reduced numeral. -/
def limit : Nat := 4300

/-- Whether digits start with a zero that others follow. -/
def hasIdleZero : Text → Bool
  | '0' :: _ :: _ => true
  | _ => false

/-- The integer that a reduced numeral denotes: digits without an idle zero, behind a minus sign or
none. Digits are counted before it is seen what follows them. -/
def exact (t : Text) : Except Defect Int :=
  let (negative, rest) := signAndRest t
  let (digits, rest) := Text.takeDigits rest
  if digits.isEmpty || hasIdleZero digits then .error .unreadable
  else if limit < digits.length then .error .oversized
  else if !rest.isEmpty then .error .unreadable
  else .ok (if negative then -(Text.decimal digits : Int) else Text.decimal digits)

/-- The integer that a text denotes. -/
def read (t : Text) : Except Defect Int :=
  match reduced? t with
  | none => .error .unreadable
  | some t => exact t

end AddressBook.Schema.Numeral
