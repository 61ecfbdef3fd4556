import AddressBook.Http.Message
import AddressBook.Json.Encoding
import AddressBook.Json.Writer
import AddressBook.Schema.Value
import AddressBook.Schema.Wording
import AddressBook.Text.Case

/-!
The body of a request that is to hold a JSON object.
-/
namespace AddressBook.Http

/-- What a body holds. -/
inductive Payload where
  | absent
  | json (value : Json)
  /-- Content that is not said to be JSON, which is not looked into. -/
  | foreign (content : List UInt8)

/-- Why a body of JSON cannot be read. -/
inductive PayloadError where
  /-- The bytes are no text. -/
  | undecodable
  /-- The text goes wrong at a position. -/
  | malformed (position : Nat)
  /-- The text is beyond the limits. -/
  | excessive
deriving DecidableEq

/-- Whether a type of content is JSON: `application/json`, or a type whose name ends in `+json`. The
parameters behind a semicolon and letter case do not count. -/
def isJsonType (label : Text) : Bool :=
  match Text.pieces (· == '/') (Text.lower (Text.trim (label.takeWhile (· != ';')))) with
  | [kind, form] =>
    kind == Text.ofString "application"
      && (form == Text.ofString "json" || (Text.ofString "+json").isSuffixOf form)
  | _ => false

/-- Whether the content of a request is said to be JSON. -/
def Request.isJson (r : Request) : Bool :=
  match r.contentType with
  | none => false
  | some label => isJsonType label

/-- The limits of the JSON text in a body. -/
def bodyLimits : Json.Limits := ⟨4300, 960⟩

/-- Reads the body of a request. -/
def Request.payload (r : Request) : Except PayloadError Payload :=
  if r.body.isEmpty then .ok .absent
  else if !r.isJson then .ok (.foreign r.body)
  else match Json.textOfBytes? r.body with
    | none => .error .undecodable
    | some t =>
      match Json.readWithin bodyLimits t with
      | .ok value => .ok (.json value)
      | .error (.malformed position) => .error (.malformed position)
      | .error .excessive => .error .excessive

/-- The members of the object that a body holds. A null counts as no body. -/
def Payload.members : Payload → Schema.Checked Schema.Members
  | absent | json .null => .fail .missing .null
  | json (.object members) => .ok members
  | json v => .fail .notBody v
  | foreign content => .fail .notBody (.text (Utf8.text content))

/-- What a body asks for, given how the members of its object are read. -/
def Payload.read {α : Type} (schema : Schema.Members → Schema.Checked α) (p : Payload) :
    Schema.Checked α :=
  Schema.Checked.under (.member "body") (p.members.bind schema)

/-- Why the full report on issues cannot be sent: the content at fault is no text, or the report
holds a number that is infinite or undefined, or the half of a surrogate pair. -/
def Payload.unshowable? (p : Payload) (issues : List Schema.Issue) : Option Failure :=
  let report := Schema.report issues
  match p with
  | foreign content => (Utf8.fault? content).map .undecodable
  | _ =>
    if !report.isFinite then some .unwritable
    else if !report.holdsHalf then none
    else (Half.run? (Text.ofString report.writePlain)).map .unencodable

end AddressBook.Http
