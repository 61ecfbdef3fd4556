import AddressBook.Http.Route
import AddressBook.Service.Basic

/-!
How the service responds to requests. The body is read first, then the store must
be open, then everything else in the request is checked, and only then the
operation is carried out.
-/
namespace AddressBook.Http

namespace Response

/-- The response that only tells a detail. -/
def detail (status : Nat) (text : String) : Response :=
  .answer status (.record [("detail", .string text)])

/-- The response to a domain error, if it is the client's to mend. -/
def ofDomainError (e : DomainError) : Response :=
  match e, e.resource? with
  | .invalid m field, _ =>
    .answer 422 (.record [("error", .string "Validation failed"), ("detail", .text m),
      ("field", .optional .text field)])
  | _, some resource =>
    .answer 404 (.record [("error", .text (resource ++ Text.ofString " not found")),
      ("detail", .text e.message)])
  | _, none => .breakdown (.domain e)

/-- The response to a failure. -/
def ofFailure : Failure → Response
  | .malformed issues => .answer 422 (.record [("detail", .array (issues.map fun i => .record i.summary))])
  | .domain e => ofDomainError e
  | f => .breakdown f

/-- The response to a body that cannot be read. -/
def ofPayloadError : PayloadError → Response
  | .undecodable | .excessive => detail 400 "There was an error parsing the body"
  | .malformed position =>
    .answer 422 (.record [("detail", .array [.record [("type", .string Schema.Fault.notJson.code),
      ("loc", .array [.string "body", .int position])]])])

/-- The response to the faults of a request. It shows the parts at fault, if they can be shown. -/
def ofIssues (p : Payload) (issues : List Schema.Issue) : Response :=
  match p.unshowable? issues with
  | none => ofFailure (.malformed issues)
  | some f => .breakdown f

/-- The response to an operation that was carried out. -/
def ofResult (success : Nat) : Except Failure Answer → Response
  | .ok a => .answer success a.toJson
  | .error f => ofFailure f

/-- A response without its body. -/
def withoutBody : Response → Response
  | answer status _ => answer status .null
  | breakdown cause => breakdown cause

end Response

/-- The response that the service is there. -/
def healthy : Response :=
  .answer 200 (.record [("status", .string "ok"), ("service", .text ({} : Settings).serviceName)])

variable (env : Conditions)

/-- Carries out what a request with a given payload is for. -/
def carryOut (s : Service) (r : Request) (p : Payload) (e : Endpoint) : Response × Service :=
  match e.operation? s.settings r p with
  | none => (healthy, s)
  | some checked =>
    if !s.running then (.breakdown .closed, s)
    else match checked with
      | .error issues => (.ofIssues p issues, s)
      | .ok op =>
        let (result, s) := s.run (op.perform env)
        (.ofResult e.success result, s)

/-- Serves a request for an endpoint. -/
def serve (s : Service) (r : Request) (e : Endpoint) : Response × Service :=
  if e.takesPayload then
    match r.payload with
    | .error fault => (.ofPayloadError fault, s)
    | .ok p => carryOut env s r p e
  else carryOut env s r .absent e

/-- The response to a request, and the service after it. -/
def respond (s : Service) (r : Request) : Response × Service :=
  let (response, s) : Response × Service := match lookup r.method (pathOf r.path) with
    | .endpoint e => serve env s r e
    | .wrongMethod => (.detail 405 "Method Not Allowed", s)
    | .misspelt => (.answer 307 .null, s)
    | .unknown => (.detail 404 "Not Found", s)
  (if r.method = .head then response.withoutBody else response, s)

end AddressBook.Http
