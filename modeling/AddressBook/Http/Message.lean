import AddressBook.Failure
import AddressBook.Json.Basic

/-!
Requests and responses, as far as the service looks at them.
-/
namespace AddressBook.Http

/-- The method of a request. -/
inductive Method where
  | get
  | post
  | put
  | delete
  /-- Like a get, but the response has no body. -/
  | head
  /-- Any other method; the service has no use for it. -/
  | other
deriving DecidableEq

/-- The methods that have a name here. -/
def Method.named : List (String × Method) :=
  [("GET", get), ("POST", post), ("PUT", put), ("DELETE", delete), ("HEAD", head)]

/-- The method with a given name, in any letter case. -/
def Method.ofLabel (label : Text) : Method :=
  match named.find? fun (name, _) => Text.ofString name == label.map Char.toUpper with
  | some (_, m) => m
  | none => other

/-- A request. -/
structure Request where
  method : Method
  /-- The path as it was sent, in which characters may be escaped. -/
  path : Text
  /-- The parameters of the query, in order. -/
  query : List (Text × Text) := []
  /-- The type of the content, if one is given. -/
  contentType : Option Text := none
  body : List UInt8 := []

/-- The response to a request. -/
inductive Response where
  /-- A status and a body, which is null if there is none. -/
  | answer (status : Nat) (body : Json)
  /-- The service has failed, and does not tell the client why. -/
  | breakdown (cause : Failure)

/-- The status of a response. -/
def Response.status : Response → Nat
  | answer status _ => status
  | breakdown _ => 500

end AddressBook.Http
