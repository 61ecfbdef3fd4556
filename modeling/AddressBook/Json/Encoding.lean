import AddressBook.Json.Reader
import AddressBook.Text.Utf8

/-!
JSON texts in bytes. The encoding is known by the byte order mark, or else by the
place of zero bytes, since the first characters of a JSON text are ASCII.
-/
namespace AddressBook.Json

/-- An encoding of text in bytes. -/
inductive Encoding where
  | utf8
  | utf16 (bigEndian : Bool)
  | utf32 (bigEndian : Bool)
deriving DecidableEq

namespace Encoding

/-- The encoding of a text by its byte order mark, with the bytes behind the mark. -/
def ofMark? : List UInt8 → Option (Encoding × List UInt8)
  | 0x00 :: 0x00 :: 0xFE :: 0xFF :: rest => some (utf32 true, rest)
  | 0xFF :: 0xFE :: 0x00 :: 0x00 :: rest => some (utf32 false, rest)
  | 0xFE :: 0xFF :: rest => some (utf16 true, rest)
  | 0xFF :: 0xFE :: rest => some (utf16 false, rest)
  | 0xEF :: 0xBB :: 0xBF :: rest => some (utf8, rest)
  | _ => none

/-- The encoding of a text without a mark, by its zero bytes. -/
def ofZeros : List UInt8 → Encoding
  | a :: b :: c :: d :: _ =>
    if a == 0 then (if b == 0 then utf32 true else utf16 true)
    else if b == 0 then (if c == 0 && d == 0 then utf32 false else utf16 false)
    else utf8
  | [a, b] => if a == 0 then utf16 true else if b == 0 then utf16 false else utf8
  | _ => utf8

/-- A number of two bytes. -/
def unit (bigEndian : Bool) (a b : UInt8) : Nat :=
  if bigEndian then a.toNat * 256 + b.toNat else b.toNat * 256 + a.toNat

/-- Adds the units of two bytes each to a string. -/
def readUnits (bigEndian : Bool) (s : Scanned) : List UInt8 → Option Text
  | [] => some s.settle.reverse
  | [_] => none
  | a :: b :: rest => readUnits bigEndian (s.pushUnit (unit bigEndian a b)) rest

/-- The character or half with a given number, put in front of a text. -/
def onto? (done : Text) (n : Nat) : Option Text :=
  if n < 0xD800 || (0xE000 ≤ n && n < 0x110000) then some (Char.ofNat n :: done)
  else if n < 0xE000 then some (Half.onto done n)
  else none

/-- Reads characters of four bytes each; `done` holds those read, last first. -/
def readWide (bigEndian : Bool) (done : Text) : List UInt8 → Option Text
  | [] => some done.reverse
  | a :: b :: c :: d :: rest =>
    let first := unit bigEndian a b
    let second := unit bigEndian c d
    match onto? done (if bigEndian then first * 65536 + second else second * 65536 + first) with
    | none => none
    | some done => readWide bigEndian done rest
  | _ => none

/-- The text that bytes hold in an encoding. -/
def text? (bytes : List UInt8) : Encoding → Option Text
  | utf8 => Utf8.text? bytes
  | utf16 bigEndian => readUnits bigEndian ⟨[], none⟩ bytes
  | utf32 bigEndian => readWide bigEndian [] bytes

end Encoding

/-- The JSON text that bytes hold. -/
def textOfBytes? (bytes : List UInt8) : Option Text :=
  match Encoding.ofMark? bytes with
  | some (encoding, rest) => encoding.text? rest
  | none => (Encoding.ofZeros bytes).text? bytes

end AddressBook.Json
