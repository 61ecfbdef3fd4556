import AddressBook.Sequence
import AddressBook.Text.Blank
import AddressBook.Text.Case
import AddressBook.Text.Digit

/-!
Normal forms of single field values, as the cleanup routines establish them.
-/
namespace AddressBook.Cleanup

/-- The escape that stands for a line break in imported addresses. -/
def lineEscape : Text := Text.ofString "0D=0A"

/-- The mark that separates lines in imported addresses. -/
def lineMark : Text := Text.ofString ":::"

/-- An address with real line breaks and each line once. -/
def address (t : Text) : Text :=
  let broken := Text.replace lineMark ['\n'] (Text.replace lineEscape ['\n'] t)
  let tight := Text.trim (Text.squeeze (· == '\n') '\n' broken)
  Text.join ['\n'] (distinct (Text.pieces (· == '\n') tight))

/-- A word with its first character in upper case and the rest in lower case. -/
def capitalized : Text → Text
  | [] => []
  | c :: rest => Text.upper [c] ++ Text.lower rest

/-- The characters that separate the words before the `@` of an e-mail address. -/
def separatesWords (c : Char) : Bool := c == '.' || c == '_' || c == '-'

/-- The name that an e-mail address suggests. -/
def nameFromEmail (email : Text) : Text :=
  let localPart := email.takeWhile (· != '@')
  Text.join [' '] ((Text.pieces separatesWords localPart).map capitalized)

/-- The domain of made-up addresses. -/
def placeholderDomain : Text := Text.ofString "@example.com"

/-- A made-up e-mail address for a name. -/
def placeholderEmail (name : Text) : Text :=
  Text.squeeze Text.isBlank '.' (Text.lower name) ++ placeholderDomain

/-- A value that is present and not empty. -/
def present : Option Text → Option Text
  | some [] => none
  | v => v

/-- The name of contacts about whom nothing is known. -/
def unknownName : Text := Text.ofString "Unknown Contact"

/-- Name and e-mail address, each made from the other where it is missing or empty. -/
def fillNameAndEmail (name email : Option Text) : Text × Option Text :=
  let name := match present name, present email with
    | none, some e => some (nameFromEmail e)
    | n, _ => n
  let email := match present email, present name with
    | none, some n => some (placeholderEmail n)
    | e, _ => e
  ((present name).getD unknownName, present email)

/-- Whether a telephone number may hold a character. -/
def isPhoneChar (c : Char) : Bool :=
  Text.isDigit c || c == '+' || c == '-' || c == '(' || c == ')' || Text.isBlank c

/-- A text with single spaces between its words. -/
def name (t : Text) : Text := Text.trim (Text.squeeze Text.isBlank ' ' t)

/-- A telephone number without foreign characters, with single spaces. -/
def phone (t : Text) : Text := name (t.filter isPhoneChar)

/-- An e-mail address in lower case, without outer blanks. -/
def email (t : Text) : Text := Text.trim (Text.lower t)

end AddressBook.Cleanup
