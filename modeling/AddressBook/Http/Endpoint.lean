import AddressBook.Http.Payload
import AddressBook.Service.Operation
import AddressBook.Settings

/-!
What requests can be for, and the operation that a request asks for: it is put
together from the path, the parameters and the body, and all faults found in
them are reported in this order.
-/
namespace AddressBook.Http

open Schema

/-- What a request is for. A word of the path that stands for something is kept as it is. -/
inductive Endpoint where
  | search
  | createContact
  | matchingIds
  | contact (id : Text)
  | updateContact (id : Text)
  | deleteContact (id : Text)
  | reactivateContact (id : Text)
  | versions (id : Text)
  | restoreVersion
  | restoreAll
  | groups
  | createGroup
  | group (id : Text)
  | updateGroup (id : Text)
  | deleteGroup (id : Text)
  | addMembers (group : Text)
  | removeMembers (group : Text)
  | display
  | updateDisplay
  | importCsv
  | uploads
  | cleanup (label : Text)
  /-- Whether the service is there at all. -/
  | health
deriving DecidableEq

/-- The parameters of a search. -/
structure SearchParameters where
  search : Text
  page : Int
  limit : Option Int
  key : SortKey
  order : SortOrder
  group : Option Uuid

/-- The greatest page size that a request may name. -/
def limitBound : Int := 200

/-- The parameters of a search, read from a query. -/
def searchParameters (query : Members) : Checked SearchParameters :=
  Checked.on (Checked.on (Checked.on (Checked.on (Checked.on (Checked.on (.ok SearchParameters.mk)
    (defaulted "search" text [] query))
    (defaulted "page" (integerFrom 1) 1 query))
    (defaulted "limit" (nullable (integerWithin 1 limitBound)) none query))
    (defaulted "sort_by" (choice SortKey.titles SortKey.ofLabel?) (.field .name) query))
    (defaulted "sort_order" (choice SortOrder.titles SortOrder.ofLabel?) .ascending query))
    (defaulted "group_id" (nullable identifier) none query)

/-- The page size for a limit that a request may name: the settings give the size for when it names
none, and the greatest size. -/
def pageSize (s : Settings) (limit : Option Int) : Int :=
  min (limit.getD s.defaultPageSize) s.maxPageSize

/-- The listing that a search asks for. -/
def SearchParameters.listing (p : SearchParameters) (s : Settings) : Contacts.Listing :=
  ⟨p.key, p.order, p.page, pageSize s p.limit, p.group⟩

/-- The parameters of a query by name; of one name the last counts. -/
def Request.parameters (r : Request) : Members :=
  r.query.foldl (fun found (name, value) => Json.setMember name (.text value) found) []

/-- What a query asks for, given how its parameters are read. -/
def Request.ask {α : Type} (schema : Members → Checked α) (r : Request) : Checked α :=
  Checked.under (.member "query") (schema r.parameters)

/-- The identifier that a word of the path is. -/
def pathId (name : String) (word : Text) : Checked Uuid :=
  Checked.under (.member "path") (Checked.under (.member name) (identifier (.text word)))

namespace Endpoint

/-- Whether a request for it holds a JSON object. -/
def takesPayload : Endpoint → Bool
  | createContact | matchingIds | updateContact _ | restoreVersion | restoreAll | createGroup
  | updateGroup _ | addMembers _ | removeMembers _ | updateDisplay => true
  | _ => false

/-- The status of a response when all went well. -/
def success : Endpoint → Nat
  | createContact | createGroup | importCsv => 201
  | deleteGroup _ => 204
  | _ => 200

/-- The operation that a request asks for; there is none for a question after the service itself. -/
def operation? (s : Settings) (r : Request) (p : Payload) : Endpoint → Option (Checked Operation)
  | search =>
    some ((r.ask searchParameters).map fun q => .search q.search (q.listing s))
  | createContact => some ((p.read newContact).map .createContact)
  | matchingIds => some ((p.read idSearch).map .matchingIds)
  | contact id => some ((pathId "contact_id" id).map .contact)
  | updateContact id =>
    some (Checked.on ((pathId "contact_id" id).map .updateContact) (p.read contactChanges))
  | deleteContact id => some ((pathId "contact_id" id).map .deleteContact)
  | reactivateContact id => some ((pathId "contact_id" id).map .reactivateContact)
  | versions id => some ((pathId "contact_id" id).map .versions)
  | restoreVersion =>
    some ((p.read versionRestore).map fun q => .restoreVersion q.contact q.version)
  | restoreAll => some ((p.read (dateRestore true)).map fun d => .restoreAll d.instant)
  | groups => some (.ok .groups)
  | createGroup => some ((p.read newGroup).map .createGroup)
  | group id => some ((pathId "group_id" id).map .group)
  | updateGroup id =>
    some (Checked.on ((pathId "group_id" id).map .updateGroup) (p.read groupChanges))
  | deleteGroup id => some ((pathId "group_id" id).map .deleteGroup)
  | addMembers id =>
    some (Checked.on ((pathId "group_id" id).map .addMembers) (p.read memberIds))
  | removeMembers id =>
    some (Checked.on ((pathId "group_id" id).map .removeMembers) (p.read memberIds))
  | display => some (.ok (.display s.settingsUserKey))
  | updateDisplay =>
    some ((p.read preferencesUpdate).map fun u => .updateDisplay s.settingsUserKey u)
  | importCsv =>
    some ((r.ask (defaulted "filename" (boundedText 1 255) (Text.ofString "upload.csv"))).map
      fun name => .importCsv name r.body s.importBatchSize)
  | uploads =>
    some ((r.ask (defaulted "limit" (integerWithin 1 limitBound) 50)).map
      fun n => .uploads n.toNat)
  | cleanup label => some (.ok (.cleanup label))
  | health => none

end Endpoint
end AddressBook.Http
