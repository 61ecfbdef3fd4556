import AddressBook.Json.Basic
import AddressBook.Text.Decimal
import AddressBook.Text.Half

/-!
Reading JSON texts. A malformed text is reported by the position, counted in
characters from zero, at which reading could not go on. Reading may be limited,
and is given up at the first part that is beyond the limits.
-/
namespace AddressBook.Json

/-- The text still to be read, and the position of its first character. -/
structure Cursor where
  rest : Text
  index : Nat

/-- Why a text is not read. -/
inductive Defect where
  /-- The text goes wrong at a position. -/
  | malformed (position : Nat)
  /-- A part of the text is beyond the limits. -/
  | excessive
deriving DecidableEq

/-- The result of reading a piece: a value with the cursor behind it, or why there is none. -/
abbrev Read (α : Type) := Except Defect (α × Cursor)

/-- The limits of what is read. -/
structure Limits where
  /-- The greatest number of digits in an integer. -/
  digits : Nat
  /-- The greatest number of arrays and objects inside each other. -/
  depth : Nat

/-- The limits within an array or object, if there may be one. -/
def Limits.inside : Limits → Option Limits
  | ⟨_, 0⟩ => none
  | ⟨digits, depth + 1⟩ => some ⟨digits, depth⟩

/-- Limits that a text of a given length cannot exceed. -/
def Limits.wide (length : Nat) : Limits := ⟨length, length⟩

/-- The cursor moved past spaces, tabs and line ends. -/
def skipSpace (index : Nat) : Text → Cursor
  | [] => ⟨[], index⟩
  | c :: rest =>
    if c == ' ' || c == '\t' || c == '\n' || c == '\r' then skipSpace (index + 1) rest
    else ⟨c :: rest, index⟩

/-- The character that a one-letter escape stands for. -/
def escaped : Char → Option Char
  | '"' => some '"'
  | '\\' => some '\\'
  | '/' => some '/'
  | 'b' => some '\x08'
  | 'f' => some '\x0c'
  | 'n' => some '\n'
  | 'r' => some '\r'
  | 't' => some '\t'
  | _ => none

/-- The characters of a string in reverse, with the first half of a pair that waits for its partner. -/
structure Scanned where
  done : Text
  pending : Option Nat

/-- The characters so far; a half that waits stays alone. -/
def Scanned.settle (s : Scanned) : Text :=
  match s.pending with
  | none => s.done
  | some half => Half.onto s.done half

/-- The string so far and one more character. -/
def Scanned.push (s : Scanned) (c : Char) : Scanned := ⟨c :: s.settle, none⟩

/-- The string so far and one more 16-bit unit. -/
def Scanned.pushUnit (s : Scanned) (unit : Nat) : Scanned :=
  if 0xDC00 ≤ unit && unit < 0xE000 then
    match s.pending with
    | some high =>
      ⟨Char.ofNat (0x10000 + (high - 0xD800) * 0x400 + (unit - 0xDC00)) :: s.done, none⟩
    | none => ⟨Half.onto s.done unit, none⟩
  else if 0xD800 ≤ unit && unit < 0xDC00 then ⟨s.settle, some unit⟩
  else s.push (Char.ofNat unit)

/-- Reads a string from behind its opening quote, which stands at `start`. A half counts as one
character. -/
def readString (start index : Nat) (s : Scanned) : Text → Read Text
  | [] => .error (.malformed start)
  | '"' :: rest => .ok (s.settle.reverse, ⟨rest, index + 1⟩)
  | '\\' :: 'u' :: a :: b :: c :: d :: next :: rest =>
    match Text.hexNumber? [a, b, c, d] with
    | none => .error (.malformed (index + 1))
    | some unit => readString start (index + 6) (s.pushUnit unit) (next :: rest)
  | '\\' :: 'u' :: _ => .error (.malformed (index + 1))
  | ['\\'] => .error (.malformed start)
  | '\\' :: k :: rest =>
    match escaped k with
    | none => .error (.malformed index)
    | some c => readString start (index + 2) (s.push c) rest
  | c :: rest =>
    if c.toNat < 0x20 then .error (.malformed index)
    else readString start (if Half.opens c rest then index else index + 1) (s.push c) rest

/-- The fraction part at the front of a text: a point and at least one digit. -/
def takeFraction : Text → Text × Text
  | '.' :: rest => match Text.takeDigits rest with
    | ([], _) => ([], '.' :: rest)
    | found => found
  | t => ([], t)

/-- The exponent part at the front of a text: a letter, a sign or none, and at least one digit. -/
def takeExponent (t : Text) : Option (Int × Text) :=
  match t with
  | [] => none
  | e :: rest =>
    if e != 'e' && e != 'E' then none
    else
      let (negative, rest) := match rest with
        | '-' :: r => (true, r)
        | '+' :: r => (false, r)
        | r => (false, r)
      match Text.takeDigits rest with
      | ([], _) => none
      | (digits, rest) =>
        some (if negative then -(Text.decimal digits : Int) else Text.decimal digits, rest)

/-- The whole part of a numeral at the front of a text: a zero alone, or digits without a leading
zero. -/
def takeWhole : Text → Text × Text
  | '0' :: rest => (['0'], rest)
  | t => Text.takeDigits t

/-- The number with a given sign, whole part, fraction and exponent; without the last two it is an
integer. -/
def number (negative : Bool) (whole fraction : Text) (power : Option Int) : Json :=
  if fraction.isEmpty && power.isNone then
    .int (if negative then -(Text.decimal whole : Int) else Text.decimal whole)
  else
    .real (Real.ofDecimal negative (Text.decimal (whole ++ fraction))
      (power.getD 0 - fraction.length))

/-- Reads a number. -/
def readNumber (limits : Limits) (cur : Cursor) : Read Json :=
  let (negative, body) := match cur.rest with
    | '-' :: r => (true, r)
    | r => (false, r)
  match takeWhole body with
  | ([], _) => .error (.malformed cur.index)
  | (whole, rest) =>
    let (fraction, rest) := takeFraction rest
    let power := takeExponent rest
    let rest := match power with
      | none => rest
      | some (_, r) => r
    if fraction.isEmpty && power.isNone && limits.digits < whole.length then .error .excessive
    else
      .ok (number negative whole fraction (power.map (·.1)),
        ⟨rest, cur.index + (cur.rest.length - rest.length)⟩)

/-- The words that stand for values of their own. -/
def words : List (String × Json) :=
  [("null", .null), ("true", .bool true), ("false", .bool false), ("NaN", .real .undefined),
    ("Infinity", .real (.infinite false)), ("-Infinity", .real (.infinite true))]

/-- Reads a word or a number. -/
def readAtom (limits : Limits) (cur : Cursor) : Read Json :=
  match words.find? fun (word, _) => (Text.ofString word).isPrefixOf cur.rest with
  | some (word, value) => .ok (value, ⟨cur.rest.drop word.length, cur.index + word.length⟩)
  | none => readNumber limits cur

mutual

/-- Reads one value; `fuel` bounds the number of values and members met. -/
def readValue (limits : Limits) (fuel : Nat) (cur : Cursor) : Read Json :=
  match fuel with
  | 0 => .error (.malformed cur.index)
  | fuel + 1 =>
    match cur.rest with
    | '"' :: rest =>
      match readString cur.index (cur.index + 1) ⟨[], none⟩ rest with
      | .error e => .error e
      | .ok (t, cur) => .ok (.text t, cur)
    | '[' :: rest =>
      match limits.inside with
      | none => .error .excessive
      | some limits =>
        let cur := skipSpace (cur.index + 1) rest
        match cur.rest with
        | ']' :: rest => .ok (.array [], ⟨rest, cur.index + 1⟩)
        | _ => readItems limits fuel [] cur
    | '{' :: rest =>
      match limits.inside with
      | none => .error .excessive
      | some limits =>
        let cur := skipSpace (cur.index + 1) rest
        match cur.rest with
        | '}' :: rest => .ok (.object [], ⟨rest, cur.index + 1⟩)
        | _ => readMembers limits fuel [] cur
    | _ => readAtom limits cur

/-- Reads the items of an array up to its closing bracket; `done` holds those read, last first. -/
def readItems (limits : Limits) (fuel : Nat) (done : List Json) (cur : Cursor) : Read Json :=
  match fuel with
  | 0 => .error (.malformed cur.index)
  | fuel + 1 =>
    match readValue limits fuel cur with
    | .error e => .error e
    | .ok (v, cur) =>
      let cur := skipSpace cur.index cur.rest
      match cur.rest with
      | ']' :: rest => .ok (.array (v :: done).reverse, ⟨rest, cur.index + 1⟩)
      | ',' :: rest => readItems limits fuel (v :: done) (skipSpace (cur.index + 1) rest)
      | _ => .error (.malformed cur.index)

/-- Reads the members of an object up to its closing brace; `done` holds those read, last first. -/
def readMembers (limits : Limits) (fuel : Nat) (done : List (Text × Json)) (cur : Cursor) :
    Read Json :=
  match fuel with
  | 0 => .error (.malformed cur.index)
  | fuel + 1 =>
    match cur.rest with
    | '"' :: rest =>
      match readString cur.index (cur.index + 1) ⟨[], none⟩ rest with
      | .error e => .error e
      | .ok (name, cur) =>
        let cur := skipSpace cur.index cur.rest
        match cur.rest with
        | ':' :: rest =>
          match readValue limits fuel (skipSpace (cur.index + 1) rest) with
          | .error e => .error e
          | .ok (v, cur) =>
            let cur := skipSpace cur.index cur.rest
            match cur.rest with
            | '}' :: rest => .ok (ofMembers ((name, v) :: done).reverse, ⟨rest, cur.index + 1⟩)
            | ',' :: rest =>
              readMembers limits fuel ((name, v) :: done) (skipSpace (cur.index + 1) rest)
            | _ => .error (.malformed cur.index)
        | _ => .error (.malformed cur.index)
    | _ => .error (.malformed cur.index)

end

/-- The value that a whole text denotes, if it is within limits. -/
def readWithin (limits : Limits) (t : Text) : Except Defect Json :=
  match readValue limits (2 * t.length + 2) (skipSpace 0 t) with
  | .error e => .error e
  | .ok (v, cur) =>
    let cur := skipSpace cur.index cur.rest
    if cur.rest.isEmpty then .ok v else .error (.malformed cur.index)

/-- The value that a whole text denotes. -/
def read (t : Text) : Except Defect Json := readWithin (.wide t.length) t

end AddressBook.Json
