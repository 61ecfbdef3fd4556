import AddressBook.Failure
import AddressBook.Json.Display

/-!
Domain errors made from arguments of any kind, as somebody may want to have them
described without their having come up.
-/
namespace AddressBook

/-- What can be told of an error. -/
structure Description where
  /-- The message that the error keeps. -/
  message : Json
  /-- The wording of the error. -/
  text : Text
  /-- What else the error keeps, by name. -/
  details : List (String × Json) := []

namespace ErrorKind

/-- The kind under whose name the making of an error is known. -/
def maker : ErrorKind → ErrorKind
  | querySyntax => general
  | k => k

/-- The arguments of which an error is made. -/
def parameters : ErrorKind → List String
  | general | querySyntax => ["message"]
  | notFound => ["resource", "resource_id"]
  | contactNotFound => ["contact_id"]
  | versionNotFound => ["contact_id", "version"]
  | invalid => ["message", "field"]
  | snapshotFailed => ["contact_id", "version", "cause"]

/-- How an error is made. The error itself counts among the arguments. -/
def signature (k : ErrorKind) : Signature where
  title := k.maker.title ++ ".__init__()"
  parameters := k.parameters
  optional := if k = invalid then 1 else 0
  implied := 1

/-- The description of an error about something that was looked for in vain. -/
def absence (resource id : Json) (more : List (String × Json)) : Description :=
  let text := DomainError.absenceText resource.display id.display
  ⟨.text text, text, [("resource", resource), ("resource_id", id)] ++ more⟩

/-- The description of an error of a kind, made of arguments in order. -/
def describe (k : ErrorKind) (arguments : List Json) : Except Failure Description :=
  if !k.signature.takes arguments.length then
    .error (.miscounted k.signature arguments.length)
  else
    let argument (i : Nat) : Json := arguments[i]?.getD .null
    let label (mark : String) : Text :=
      DomainError.versionLabel (argument 0).display (argument 1).display mark
    .ok <| match k with
    | general | querySyntax => ⟨argument 0, (argument 0).display, []⟩
    | invalid => ⟨argument 0, (argument 0).display, [("field", argument 1)]⟩
    | notFound => absence (argument 0) (argument 1) []
    | contactNotFound =>
      absence (.string DomainError.contactResource) (.text (argument 0).display) []
    | versionNotFound =>
      absence (.string DomainError.versionResource) (.text (label ":v")) [("version", argument 1)]
    | snapshotFailed =>
      let text := DomainError.snapshotText (label " v") (argument 2).display
      ⟨.text text, text, [("version", argument 1)]⟩

end ErrorKind
end AddressBook
