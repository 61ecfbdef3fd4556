import AddressBook.Text.Basic

/-!
Blank characters, trimming, and runs of blanks.
-/
namespace AddressBook.Text

/-- The blank characters: ASCII controls that move the cursor or separate
information, the space, and the Unicode spaces and line separators. -/
def isBlank (c : Char) : Bool :=
  let n := c.toNat
  (0x09 ≤ n && n ≤ 0x0D) || (0x1C ≤ n && n ≤ 0x20) || n == 0x85 || n == 0xA0 || n == 0x1680
    || (0x2000 ≤ n && n ≤ 0x200A) || n == 0x2028 || n == 0x2029 || n == 0x202F || n == 0x205F
    || n == 0x3000

/-- Text without the blanks at its end. -/
def trimEnd (t : Text) : Text := (t.reverse.dropWhile isBlank).reverse

/-- Text without the blanks at either end. -/
def trim (t : Text) : Text := trimEnd (t.dropWhile isBlank)

/-- Every maximal run of characters that `cut` picks out becomes the one character `glue`;
`inRun` tells that the character before was part of a run. -/
def squeezeFrom (cut : Char → Bool) (glue : Char) : Bool → Text → Text
  | _, [] => []
  | inRun, c :: rest =>
    if cut c then
      if inRun then squeezeFrom cut glue true rest else glue :: squeezeFrom cut glue true rest
    else c :: squeezeFrom cut glue false rest

/-- Every maximal run of characters that `cut` picks out becomes the one character `glue`. -/
def squeeze (cut : Char → Bool) (glue : Char) (t : Text) : Text := squeezeFrom cut glue false t

/-- The words of a text: its maximal pieces without blanks. -/
def words (t : Text) : List Text := (pieces isBlank t).filter (! ·.isEmpty)

end AddressBook.Text
