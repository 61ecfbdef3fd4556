import AddressBook.Http.Message
import AddressBook.Text.Hex
import AddressBook.Text.Utf8

/-!
The path of a request: escaped characters, and the words between the slashes.
-/
namespace AddressBook.Http

/-- The bytes of a path in which a percent sign and two hexadecimal digits stand for a byte. A
percent sign that no digits follow stands for itself. -/
def unescape : Text → List UInt8
  | [] => []
  | '%' :: a :: b :: rest =>
    match Text.hexDigit? a, Text.hexDigit? b with
    | some x, some y => UInt8.ofNat (x * 16 + y) :: unescape rest
    | _, _ => 0x25 :: unescape (a :: b :: rest)
  | c :: rest => String.utf8EncodeChar c ++ unescape rest

/-- The path that is meant by its escaped form. -/
def pathOf (escaped : Text) : Text := Utf8.text (unescape escaped)

/-- The words of a path, each behind a slash; a path starts with a slash. -/
def words? (path : Text) : Option (List Text) :=
  match path with
  | '/' :: rest => some (Text.pieces (· == '/') rest)
  | _ => none

/-- A path without the slashes at its end. -/
def withoutSlashes (path : Text) : Text := (path.reverse.dropWhile (· == '/')).reverse

end AddressBook.Http
