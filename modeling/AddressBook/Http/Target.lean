import AddressBook.Http.Path

/-!
The target of a request as clients write it: a path, behind which a query and a
fragment may stand. The path is resolved against the root of the service.
-/
namespace AddressBook.Http

/-- Why a text is no target. -/
inductive TargetError where
  /-- It holds a control character, at a position counted from zero. -/
  | control (c : Char) (position : Nat)
  /-- The path starts with two slashes, and no host is named. -/
  | doubleSlash
  /-- The path starts with a colon. -/
  | colon
deriving DecidableEq

/-- A control character in words. -/
def controlName (c : Char) : Text :=
  match c with
  | '\n' => ['\\', 'n']
  | '\r' => ['\\', 'r']
  | '\t' => ['\\', 't']
  | c => ['\\', 'x'] ++ Text.hexDigits 2 c.toNat

/-- The wording of an error. -/
def TargetError.message : TargetError → Text
  | control c position =>
    Text.ofString "Invalid non-printable ASCII character in URL, '" ++ controlName c
      ++ Text.ofString ("' at position " ++ toString position ++ ".")
  | doubleSlash => Text.ofString "Relative URLs cannot have a path starting with '//'"
  | colon => Text.ofString "Relative URLs cannot have a path starting with ':'"

/-- The target of a request. -/
structure Target where
  /-- The path, in which characters may be escaped. -/
  path : Text
  /-- The parameters of the query, in order. -/
  query : List (Text × Text)

namespace Target

/-- Whether a character is an ASCII control. -/
def isControl (c : Char) : Bool := c.toNat < 0x20 || c.toNat == 0x7F

/-- The first control character of a text, with its position. -/
def control? (t : Text) : Option (Char × Nat) :=
  match t.dropWhile (! isControl ·) with
  | [] => none
  | c :: rest => some (c, t.length - (rest.length + 1))

/-- Whether a character ends a path. -/
def endsPath (c : Char) : Bool := c == '?' || c == '#'

/-- Whether a character may stand in the name of a scheme. -/
def isSchemeChar (c : Char) : Bool := c.isAlphanum || c == '+' || c == '.' || c == '-'

/-- The scheme in front of a text, which may be empty, and what follows it. -/
def schemeAndRest (t : Text) : Text × Text :=
  let scheme := t.takeWhile isSchemeChar
  match t.drop scheme.length with
  | ':' :: rest => if (scheme.take 1).all Char.isAlpha then (scheme, rest) else ([], t)
  | _ => ([], t)

/-- Whether a character belongs to the name of a host. -/
def inHost (c : Char) : Bool := c != '/' && !endsPath c

/-- The name of a host in front of a text, which may be empty, and what follows it. -/
def hostAndRest : Text → Text × Text
  | '/' :: '/' :: rest => (rest.takeWhile inHost, rest.dropWhile inHost)
  | t => ([], t)

/-- The path in front of a text, and what follows it; scheme and host are left out. -/
def pathAndRest (t : Text) : Except TargetError (Text × Text) :=
  let (scheme, t) := schemeAndRest t
  let (host, t) := hostAndRest t
  match scheme ++ host, t with
  | [], '/' :: '/' :: _ => .error .doubleSlash
  | [], ':' :: _ => .error .colon
  | _, t => .ok (t.takeWhile (! endsPath ·), t.dropWhile (! endsPath ·))

/-- The segments of a path, last first, and one more: a single dot stands for the place that is
reached, two dots for the one before it. -/
def descend (reached : List Text) (segment : Text) : List Text :=
  if segment == ['.'] then reached
  else if segment == ['.', '.'] then (if reached == [[]] then reached else reached.drop 1)
  else segment :: reached

/-- A path resolved against the root. -/
def resolve (path : Text) : Text :=
  let segments := Text.pieces (· == '/') ('/' :: path.dropWhile (· == '/'))
  Text.join ['/'] (segments.foldl descend []).reverse

/-- A part of a query without its escapes, among which a plus sign stands for a space. -/
def plain (t : Text) : Text := Utf8.text (unescape (t.map fun c => if c == '+' then ' ' else c))

/-- The name and the value in a piece of a query. -/
def parameter (piece : Text) : Text × Text :=
  let name := piece.takeWhile (· != '=')
  (plain name, plain (piece.drop (name.length + 1)))

/-- The parameters of a query, which a question mark precedes and a fragment may follow. -/
def parameters (t : Text) : List (Text × Text) :=
  match t with
  | '?' :: rest =>
    let pieces := Text.pieces (· == '&') (rest.takeWhile (· != '#'))
    (pieces.filter (! ·.isEmpty)).map parameter
  | _ => []

/-- The target that a text denotes. -/
def read (t : Text) : Except TargetError Target :=
  match control? t with
  | some (c, position) => .error (.control c position)
  | none => (pathAndRest t).map fun (path, rest) => ⟨resolve path, parameters rest⟩

end Target
end AddressBook.Http
