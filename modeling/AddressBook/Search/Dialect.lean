import AddressBook.Search.Like
import AddressBook.Text.Half

/-!
How a store treats texts: what it holds, and how it looks for a term in them.
-/
namespace AddressBook.Search

/-- The ways of a store with texts. -/
structure Dialect where
  /-- Whether an escaped term is found in a text. -/
  finds : Text → Text → Bool
  /-- Whether an escaped term is too long to be looked for. -/
  isTooLong : Text → Bool
  /-- The part of a text for which there is no room, if there is one. -/
  unfit : Text → Option Half.Run

namespace Dialect

/-- The ways of a store that holds every text, looks for every term and sets no other limits. -/
def plain : Dialect := ⟨Like.contains, fun _ => false, fun _ => none⟩

/-- The part of a text that is compared where a zero character ends texts. -/
def compared (t : Text) : Text := t.takeWhile (· != '\x00')

/-- The greatest number of bytes in a pattern. -/
def patternLimit : Nat := 50000

/-- The ways of a store that compares texts only up to a zero character, and patterns only if they
are not too long, and that keeps texts in bytes. -/
def bounded : Dialect where
  finds escaped t := Like.accepts (compared (Like.around escaped)) (compared t)
  isTooLong escaped := patternLimit < Text.byteCount (Like.around escaped)
  unfit := Half.run?

end Dialect
end AddressBook.Search
