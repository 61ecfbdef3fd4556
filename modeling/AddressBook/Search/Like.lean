import AddressBook.Text.Basic

/-!
Patterns of the `LIKE` operator with the escape character `/`.
-/
namespace AddressBook.Search.Like

/-- A term with its wildcards and escape characters escaped. -/
def escape (term : Text) : Text :=
  term.flatMap fun c => if c == '/' || c == '%' || c == '_' then ['/', c] else [c]

/-- The ends of a text, longest first. -/
def suffixes : Text → List Text
  | [] => [[]]
  | c :: rest => (c :: rest) :: suffixes rest

/-- Whether a pattern describes a whole text: `%` is any run of characters, `_` any one character,
and `/` takes the next character literally. -/
def accepts : Text → Text → Bool
  | [], s => s.isEmpty
  | '%' :: p, s => (suffixes s).any (accepts p)
  | '_' :: _, [] => false
  | '_' :: p, _ :: s => accepts p s
  | ['/'], _ => false
  | '/' :: _ :: _, [] => false
  | '/' :: c :: p, x :: s => c == x && accepts p s
  | _ :: _, [] => false
  | c :: p, x :: s => c == x && accepts p s

/-- The pattern of the texts that contain an escaped term. -/
def around (escaped : Text) : Text := '%' :: (escaped ++ ['%'])

/-- Whether a text contains an escaped term. -/
def contains (escaped t : Text) : Bool := accepts (around escaped) t

end AddressBook.Search.Like
