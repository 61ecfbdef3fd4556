import AddressBook.Bits
import AddressBook.Json.Basic
import AddressBook.Schema.Issue
import AddressBook.Schema.Numeral
import AddressBook.Time.Reader
import AddressBook.Uuid

/-!
Single values of requests. Reading is lenient: a number may be given as text, a
truth value by a word, and so on.
-/
namespace AddressBook.Schema

/-- A way of reading a JSON value. -/
abbrev Reader (α : Type) := Json → Checked α

/-- A text, which may hold halves of surrogate pairs. -/
def text : Reader Text
  | .text t => .ok t
  | v => .fail .notText v

/-- A text that has to be looked into, with the reading of it: it must not hold a half. -/
def lookedInto {α : Type} (read : Text → Checked α) (t : Text) : Checked α :=
  if Half.occursIn t then .fail .brokenText (.text t) else read t

/-- A text with at least and at most so many characters. -/
def boundedText (least most : Nat) : Reader Text
  | .text t => lookedInto (fun t =>
      if most < t.length then .fail (.tooLong most) (.text t)
      else if t.length < least then .fail (.tooShort least) (.text t)
      else .ok t) t
  | v => .fail .notText v

/-- A value or null. -/
def nullable {α : Type} (read : Reader α) : Reader (Option α)
  | .null => .ok none
  | v => (read v).map some

/-- The integer that a number with a fraction or an exponent is, or why it is none. -/
def integerOfReal (x : Real) : Except Fault Int :=
  if !x.isFinite then .error .notFinite
  else match x.whole? with
    | none => .error .fractional
    | some n => if -signedLimit < n && n < signedLimit then .ok n else .error .oversizedInteger

/-- The integer that a text is, or why it is none. -/
def integerOfText (t : Text) : Except Fault Int :=
  match Numeral.read t with
  | .ok n => .ok n
  | .error .unreadable => .error .unreadableInteger
  | .error .oversized => .error .oversizedInteger

/-- A result, with a fault taken for one of the value at hand. -/
def of {α : Type} (v : Json) : Except Fault α → Checked α
  | .ok x => .ok x
  | .error f => .fail f v

/-- An integer. -/
def integer : Reader Int
  | .int n => .ok n
  | .bool b => .ok (if b then 1 else 0)
  | .real x => of (.real x) (integerOfReal x)
  | .text t => lookedInto (fun t => of (.text t) (integerOfText t)) t
  | v => .fail .notInteger v

/-- An integer that is not below a bound. -/
def integerFrom (least : Int) : Reader Int := fun v =>
  match integer v with
  | .error e => .error e
  | .ok n => if n < least then .fail (.tooSmall least) v else .ok n

/-- An integer between two bounds. -/
def integerWithin (least most : Int) : Reader Int := fun v =>
  match integer v with
  | .error e => .error e
  | .ok n =>
    if most < n then .fail (.tooLarge most) v
    else if n < least then .fail (.tooSmall least) v
    else .ok n

/-- The truth value that a number is. -/
def booleanOfInt (n : Int) : Except Fault Bool :=
  if n == 0 then .ok false else if n == 1 then .ok true else .error .unreadableBoolean

/-- The words for truth. -/
def trueWords : List String := ["1", "true", "t", "yes", "y", "on"]

/-- The words for falsehood. -/
def falseWords : List String := ["0", "false", "f", "no", "n", "off"]

/-- Whether a text is one of some words, letter case aside. -/
def isWord (words : List String) (t : Text) : Bool :=
  words.any fun w => Text.ofString w == t.map Char.toLower

/-- The truth value that a text is. -/
def booleanOfText (t : Text) : Except Fault Bool :=
  if isWord trueWords t then .ok true
  else if isWord falseWords t then .ok false
  else .error .unreadableBoolean

/-- A truth value. -/
def boolean : Reader Bool
  | .bool b => .ok b
  | .int n => of (.int n) (if fitsSigned n then booleanOfInt n else .error .notBoolean)
  | .real x =>
    of (.real x) (match integerOfReal x with
      | .ok n => booleanOfInt n
      | .error _ => .error .notBoolean)
  | .text t => lookedInto (fun t => of (.text t) (booleanOfText t)) t
  | v => .fail .notBoolean v

/-- An identifier. -/
def identifier : Reader Uuid
  | .text t => lookedInto (fun t =>
      match Uuid.ofText? t with
      | some u => .ok u
      | none => .fail (.unreadableIdentifier (Uuid.defect t)) (.text t)) t
  | v => .fail .notIdentifier v

/-- A date-time that was read, which must not lie in the year 0; `unread` is the fault if none
was. -/
def dated (unread : Fault) : Option DateTime → Except Fault DateTime
  | none => .error unread
  | some d => if d.reading.isDated then .ok d else .error .dateTimeOutOfRange

/-- The date-time that an integer is. If 64 bits do not hold it, it is none, unless `wide` allows it
to count as a real number. -/
def dateTimeOfInt (wide : Bool) (n : Int) : Except Fault DateTime :=
  if fitsSigned n then dated .dateTimeOutOfRange (DateTime.ofInt? n)
  else if wide && (Real.ofRatio n 1).isFinite then
    dated .dateTimeOutOfRange (DateTime.ofReal? (Real.ofRatio n 1))
  else .error .notDateTime

/-- A date-time; `wide` allows integers of more than 64 bits. -/
def dateTime (wide : Bool) : Reader DateTime
  | .text t => lookedInto (fun t => of (.text t) (dated .unreadableDateTime (DateTime.ofText? t))) t
  | .int n => of (.int n) (dateTimeOfInt wide n)
  | .real x => of (.real x) (dated .dateTimeOutOfRange (DateTime.ofReal? x))
  | v => .fail .notDateTime v

/-- One of some named choices. -/
def choice {α : Type} (names : List String) (ofLabel? : Text → Option α) : Reader α
  | .text t => lookedInto (fun t =>
      match ofLabel? t with
      | some x => .ok x
      | none => .fail (.notAllowed names) (.text t)) t
  | v => .fail (.notAllowed names) v

/-- A list, each item of which is read in the same way. -/
def listOf {α : Type} (read : Reader α) : Reader (List α)
  | .array items =>
    Checked.list (items.zipIdx.map fun (item, i) => Checked.under (.index i) (read item))
  | v => .fail .notList v

/-- The members of an object, by which its parts are read. -/
abbrev Members := List (Text × Json)

/-- The greatest number of arrays and objects inside each other in a value that is read. -/
def depthLimit : Nat := 200

/-- The members of a value that is to be an object. -/
def membersOf (v : Json) : Checked Members :=
  if depthLimit < v.depth || v.holdsHalf then .fail .notJson v
  else match v with
    | .object members => .ok members
    | v => .fail .notObject v

/-- The value of a member. -/
def Members.get? (m : Members) (name : String) : Option Json := (Json.object m).get? name

/-- A member that has to be there. -/
def required {α : Type} (name : String) (read : Reader α) (m : Members) : Checked α :=
  Checked.under (.member name) <|
    match m.get? name with
    | none => .fail .missing (.object m)
    | some j => read j

/-- A member with a value for when it is left out. -/
def defaulted {α : Type} (name : String) (read : Reader α) (default : α) (m : Members) :
    Checked α :=
  match m.get? name with
  | none => .ok default
  | some j => Checked.under (.member name) (read j)

/-- A member that may be left out, told apart from one that is given as null. -/
def given {α : Type} (name : String) (read : Reader α) (m : Members) : Checked (Option α) :=
  match m.get? name with
  | none => .ok none
  | some j => Checked.under (.member name) ((read j).map some)

end AddressBook.Schema
