import AddressBook.Text.Blank

/-!
Tokens of a search text. Blanks separate tokens unless they stand between two
quotes; quotes stay on their tokens. A quote without a partner separates too,
and belongs to no token.
-/
namespace AddressBook.Search

/-- The token in progress together with the tokens behind it, as one list. -/
def settle : Text × List Text → List Text
  | ([], later) => later
  | (token, later) => token :: later

/-- The rest of the token in progress, and the tokens behind it; `quoted` tells that an opening
quote still waits for its partner. -/
def scan : Bool → Text → Text × List Text
  | _, [] => ([], [])
  | true, c :: rest =>
    let (token, later) := scan (c != '"') rest
    (c :: token, later)
  | false, c :: rest =>
    if c == '"' then
      if rest.contains '"' then
        let (token, later) := scan true rest
        (c :: token, later)
      else ([], settle (scan false rest))
    else if Text.isBlank c then ([], settle (scan false rest))
    else
      let (token, later) := scan false rest
      (c :: token, later)

/-- The tokens of a search text, quotes included. -/
def tokens (query : Text) : List Text := settle (scan false query)

end AddressBook.Search
