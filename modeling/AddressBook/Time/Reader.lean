import AddressBook.Json.Real
import AddressBook.Text.Decimal
import AddressBook.Time.Instant

/-!
Reading date-times: a date with a time of day, a date alone, or a number of
seconds or milliseconds since the start of 1970.
-/
namespace AddressBook.DateTime

/-- A number of exactly `count` digits at the front of a text. -/
def digits? (count : Nat) (t : Text) : Option (Nat × Text) :=
  let d := t.take count
  if d.length == count && d.all Char.isDigit then
    some (Text.decimal d, t.drop count)
  else none

/-- A date at the front of a text. -/
def date? (t : Text) : Option (Calendar.Date × Text) :=
  match digits? 4 t with
  | some (year, '-' :: t) =>
    match digits? 2 t with
    | some (month, '-' :: t) =>
      match digits? 2 t with
      | some (day, t) =>
        let date : Calendar.Date := ⟨year, month, day⟩
        if date.exists? then some (date, t) else none
      | none => none
    | _ => none
  | _ => none

/-- The first six digits of a fraction, as microseconds. -/
def micro (digits : Text) : Nat :=
  let d := digits.take 6
  Text.decimal d * Nat.pow 10 (6 - d.length)

/-- The seconds of a time of day at the front of a text, as seconds and microseconds; they may be
left out. -/
def seconds? : Text → Option (Nat × Nat × Text)
  | ':' :: t =>
    match digits? 2 t with
    | some (second, t) =>
      if 59 < second then none
      else match t with
        | [] => some (second, 0, [])
        | mark :: rest =>
          if mark == '.' || mark == ',' then
            let fraction := rest.takeWhile Char.isDigit
            if fraction.isEmpty then none
            else some (second, micro fraction, rest.dropWhile Char.isDigit)
          else some (second, 0, t)
    | none => none
  | t => some (0, 0, t)

/-- An offset from UTC as a whole text, in minutes; the empty text gives none. -/
def offset? : Text → Option (Option Int)
  | [] => some none
  | [c] => if c == 'Z' || c == 'z' then some (some 0) else none
  | sign :: t =>
    if sign != '+' && sign != '-' && sign != '−' then none
    else
      match digits? 2 t with
      | some (hour, t) =>
        let t := match t with
          | ':' :: t => t
          | t => t
        match digits? 2 t with
        | some (minute, []) =>
          if 23 < hour || 59 < minute then none
          else
            let m : Int := hour * 60 + minute
            some (some (if sign == '+' then m else -m))
        | _ => none
      | none => none

/-- A date with a time of day. -/
def ofReading? (t : Text) : Option DateTime :=
  match date? t with
  | some (date, sep :: t) =>
    if sep != 'T' && sep != 't' && sep != ' ' && sep != '_' then none
    else match digits? 2 t with
      | some (hour, ':' :: t) =>
        match digits? 2 t with
        | some (minute, t) =>
          if 23 < hour || 59 < minute then none
          else match seconds? t with
            | none => none
            | some (second, micro, t) =>
              let reading := Instant.ofReading date hour minute second micro
              (offset? t).map fun offset => ⟨reading, offset⟩
        | none => none
      | _ => none
  | _ => none

/-- A date alone, which is its midnight at no known offset. -/
def ofDate? (t : Text) : Option DateTime :=
  match date? t with
  | some (date, []) => some ⟨Instant.ofReading date 0 0 0 0, none⟩
  | _ => none

/-- The greatest number that counts seconds; a greater one counts milliseconds. -/
def watershed : Nat := 20000000000

/-- The instant of a number of microseconds, if it lies in the years 0 to 9999. -/
def ofMicros? (t : Instant) : Option DateTime :=
  if Instant.ofYear 0 ≤ t && t < Instant.ofYear 10000 then some ⟨t, some 0⟩ else none

/-- The date-time that a whole number denotes. -/
def ofInt? (n : Int) : Option DateTime :=
  if n.natAbs ≤ watershed then ofMicros? (n * 1000000) else ofMicros? (n * 1000)

/-- The integer nearest to a fraction, halves going up. -/
def nearestUp (num : Int) (den : Nat) : Int := (2 * num + den).fdiv (2 * den)

/-- The date-time of a fraction in seconds. What is over a whole second is taken as the nearest real
number, and so is its millionfold, which is then the nearest whole number of microseconds. -/
def ofSeconds? (num : Int) (den : Nat) : Option DateTime :=
  match (Real.ofRatio (num.fmod den) den).ratio? with
  | none => none
  | some (n, d) =>
    match (Real.ofRatio (n * 1000000) d).ratio? with
    | none => none
    | some (n, d) => ofMicros? (num.fdiv den * 1000000 + nearestUp n d)

/-- The date-time of a fraction in milliseconds, to the nearest microsecond. -/
def ofMillis? (num : Int) (den : Nat) : Option DateTime := ofMicros? (nearestUp (num * 1000) den)

/-- The date-time that a real number denotes. -/
def ofReal? (x : Real) : Option DateTime :=
  match x.ratio? with
  | none => none
  | some (num, den) =>
    if num.natAbs ≤ watershed * den then ofSeconds? num den else ofMillis? num den

/-- The date-time that a numeral denotes: digits with a sign or none, and perhaps a decimal point
among them or at either end. -/
def ofNumeral? (t : Text) : Option DateTime :=
  let (negative, body) := match t with
    | '-' :: r => (true, r)
    | '+' :: r => (false, r)
    | r => (false, r)
  match Text.takeDigits body with
  | ([], []) => none
  | (whole, []) => ofInt? (if negative then -(Text.decimal whole : Int) else Text.decimal whole)
  | (whole, '.' :: places) =>
    match Text.natural? (whole ++ places) with
    | none => none
    | some n => ofReal? (Real.ofDecimal negative n (-(places.length : Int)))
  | _ => none

/-- The date-time that a text denotes. -/
def ofText? (t : Text) : Option DateTime :=
  match ofReading? t with
  | some d => some d
  | none => match ofDate? t with
    | some d => some d
    | none => ofNumeral? t

end AddressBook.DateTime
