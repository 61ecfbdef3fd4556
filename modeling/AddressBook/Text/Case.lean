import AddressBook.Text.Basic
import AddressBook.Text.CaseTable

/-!
Lower and upper case of whole texts. Lower-casing looks at neighbours in one
place only: a capital sigma at the end of a word gets the final form.
-/
namespace AddressBook.Text

open CaseTable

/-- The character that the first run covering `c` sends it to. -/
def shifted (table : List Shift) (c : Char) : Char :=
  match table.find? (·.covers c.toNat) with
  | some s => Char.ofNat (c.toNat + s.delta).toNat
  | none => c

/-- The single lower-case form of a character. -/
def lowerChar (c : Char) : Char := if c.toNat < 0x80 then c.toLower else shifted lowering c

/-- Whether a character lies in one of the spans. -/
def within (spans : List (Nat × Nat)) (c : Char) : Bool :=
  spans.any fun (first, last) => first ≤ c.toNat && c.toNat ≤ last

/-- Whether the nearest character that is not looked past carries case. -/
def meetsCased (t : Text) : Bool :=
  match t.dropWhile (within ignorable) with
  | [] => false
  | c :: _ => within cased c

/-- The lower-case form of a character, given the text before it, nearest first, and after it. -/
def lowerAt (before : Text) (c : Char) (after : Text) : Text :=
  if c == 'Σ' then [if meetsCased before && !meetsCased after then 'ς' else 'σ']
  else if c == 'İ' then ['i', '\u0307']
  else [lowerChar c]

/-- Lower-casing with the text already passed, and the result so far, both nearest first. -/
def lowerLoop (before done : Text) : Text → Text
  | [] => done.reverse
  | c :: rest => lowerLoop (c :: before) ((lowerAt before c rest).reverse ++ done) rest

/-- The lower-case form of a text. -/
def lower (t : Text) : Text := lowerLoop [] [] t

/-- The upper-case form of a character, which may be several characters. -/
def upperChar (c : Char) : Text :=
  if c.toNat < 0x80 then [c.toUpper]
  else match growing.find? (·.1 == c.toNat) with
    | some (_, form) => form.map Char.ofNat
    | none => [shifted raising c]

/-- The upper-case form of a text. -/
def upper (t : Text) : Text := t.flatMap upperChar

end AddressBook.Text
