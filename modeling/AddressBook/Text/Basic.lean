/-!
Text as a list of characters, with the few operations on it that every other
module needs: occurrence, replacement, splitting and joining.
-/
namespace AddressBook

/-- A piece of text, one entry per code point. -/
abbrev Text := List Char

namespace Text

/-- The text of a string literal. -/
def ofString (s : String) : Text := s.toList

/-- Whether `needle` stands in `hay` as a contiguous piece. -/
def occursIn (needle : Text) : Text → Bool
  | [] => needle.isEmpty
  | c :: rest => needle.isPrefixOf (c :: rest) || occursIn needle rest

/-- Replacement from left to right; `skip` counts the characters of the last
occurrence that are still to be passed over. -/
def replaceFrom (old new : Text) : Nat → Text → Text
  | _, [] => []
  | skip + 1, _ :: rest => replaceFrom old new skip rest
  | 0, c :: rest =>
    if old.isPrefixOf (c :: rest) then new ++ replaceFrom old new (old.length - 1) rest
    else c :: replaceFrom old new 0 rest

/-- Every occurrence of `old` becomes `new`, left to right and without overlap. -/
def replace (old new text : Text) : Text := replaceFrom old new 0 text

/-- The pieces between the characters that `cut` picks out; always at least one. -/
def pieces (cut : Char → Bool) : Text → List Text
  | [] => [[]]
  | c :: rest =>
    if cut c then [] :: pieces cut rest
    else match pieces cut rest with
      | [] => [[c]]
      | piece :: others => (c :: piece) :: others

/-- Pieces put together again with `glue` between neighbours. -/
def join (glue : Text) (parts : List Text) : Text := glue.intercalate parts

/-- Text order by code points, smaller first. -/
def precedes : Text → Text → Bool
  | [], _ => true
  | _ :: _, [] => false
  | a :: s, b :: t => if a == b then precedes s t else a.toNat < b.toNat

/-- The number of bytes in which UTF-8 encodes a text. -/
def byteCount (t : Text) : Nat := t.foldl (fun n c => n + c.utf8Size) 0

end Text
end AddressBook
