import AddressBook.Text.Hex

/-!
Text in bytes, as UTF-8 encodes it. Bytes that encode nothing are told apart from
characters: each longest start of an encoding that breaks off counts as one fault.
-/
namespace AddressBook.Utf8

/-- The start of the encoding of a character. -/
structure Pending where
  /-- The bits read so far. -/
  value : Nat
  /-- The number of bytes still to come, at least one. -/
  owed : Nat
  /-- The least and the greatest byte that may come next. -/
  low : Nat
  high : Nat
deriving DecidableEq

/-- What has been read: characters and faults, last first, and a character not complete yet. -/
structure Scan where
  done : List (Option Char) := []
  pending : Option Pending := none
deriving DecidableEq

/-- The state after a byte at which an encoding starts. The bounds on the second byte keep out
encodings that are too long, surrogates, and numbers beyond the last character. -/
def start (done : List (Option Char)) (b : Nat) : Scan :=
  let more (value owed low high : Nat) : Scan := ⟨done, some ⟨value, owed, low, high⟩⟩
  if b < 0x80 then ⟨some (Char.ofNat b) :: done, none⟩
  else if b < 0xC2 then ⟨none :: done, none⟩
  else if b < 0xE0 then more (b - 0xC0) 1 0x80 0xBF
  else if b == 0xE0 then more 0 2 0xA0 0xBF
  else if b == 0xED then more 13 2 0x80 0x9F
  else if b < 0xF0 then more (b - 0xE0) 2 0x80 0xBF
  else if b == 0xF0 then more 0 3 0x90 0xBF
  else if b < 0xF4 then more (b - 0xF0) 3 0x80 0xBF
  else if b == 0xF4 then more 4 3 0x80 0x8F
  else ⟨none :: done, none⟩

/-- The state after one more byte. -/
def Scan.step (p : Scan) (byte : UInt8) : Scan :=
  let b := byte.toNat
  match p.pending with
  | none => start p.done b
  | some c =>
    if c.low ≤ b && b ≤ c.high then
      let value := c.value * 64 + b % 64
      if c.owed == 1 then ⟨some (Char.ofNat value) :: p.done, none⟩
      else ⟨p.done, some ⟨value, c.owed - 1, 0x80, 0xBF⟩⟩
    else start (none :: p.done) b

/-- The characters and faults that bytes encode. -/
def decode (bytes : List UInt8) : List (Option Char) :=
  let p := bytes.foldl Scan.step {}
  match p.pending with
  | none => p.done.reverse
  | some _ => (none :: p.done).reverse

/-- The text that bytes encode without a fault. -/
def text? (bytes : List UInt8) : Option Text :=
  let found := decode bytes
  if found.all Option.isSome then some (found.filterMap id) else none

/-- The text that bytes encode, with a replacement character for each fault. -/
def text (bytes : List UInt8) : Text := (decode bytes).map (·.getD '\uFFFD')

/-- Why bytes encode no character. -/
inductive Reason where
  /-- No encoding starts with the byte. -/
  | badStart
  /-- The byte behind them does not continue the encoding. -/
  | badContinuation
  /-- The bytes end before the encoding does. -/
  | cutOff
deriving DecidableEq

/-- A reason in words. -/
def Reason.text : Reason → String
  | badStart => "invalid start byte"
  | badContinuation => "invalid continuation byte"
  | cutOff => "unexpected end of data"

/-- Bytes that encode no character. -/
structure Fault where
  reason : Reason
  /-- The number of bytes before them. -/
  position : Nat
  /-- The first of them. -/
  byte : UInt8
  /-- How many they are. -/
  count : Nat
deriving DecidableEq

/-- The first fault of bytes behind `position` others. Of a character not complete yet, `started`
holds what is pending, its first byte and the number of its bytes so far. -/
def faultFrom (position : Nat) (started : Option (Pending × UInt8 × Nat)) :
    List UInt8 → Option Fault
  | [] => started.map fun (_, byte, count) => ⟨.cutOff, position - count, byte, count⟩
  | b :: rest =>
    match started with
    | some (c, byte, count) =>
      if c.low ≤ b.toNat && b.toNat ≤ c.high then
        faultFrom (position + 1)
          ((Scan.step ⟨[], some c⟩ b).pending.map fun c => (c, byte, count + 1)) rest
      else some ⟨.badContinuation, position - count, byte, count⟩
    | none =>
      match Scan.step {} b with
      | ⟨[none], _⟩ => some ⟨.badStart, position, b, 1⟩
      | ⟨_, pending⟩ => faultFrom (position + 1) (pending.map fun c => (c, b, 1)) rest

/-- The first fault of bytes. -/
def fault? (bytes : List UInt8) : Option Fault := faultFrom 0 none bytes

/-- A fault in words. -/
def Fault.message (f : Fault) : Text :=
  let place :=
    if f.count == 1 then
      Text.ofString "byte 0x" ++ Text.hexDigits 2 f.byte.toNat
        ++ Text.ofString (" in position " ++ toString f.position)
    else
      Text.ofString ("bytes in position " ++ toString f.position ++ "-"
        ++ toString (f.position + f.count - 1))
  Text.ofString "'utf-8' codec can't decode " ++ place ++ Text.ofString (": " ++ f.reason.text)

end AddressBook.Utf8
