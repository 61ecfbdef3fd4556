import AddressBook.Http.Endpoint
import AddressBook.Http.Path

/-!
Which path and method lead where. Routes are tried in order, so that a path may
name something in particular before it is taken for an identifier.
-/
namespace AddressBook.Http

/-- A way to an endpoint. -/
structure Route where
  method : Method
  /-- The words of the path; `none` stands for any word. -/
  shape : List (Option String)
  /-- The endpoint, given the word that stands for something, if there is one. -/
  endpoint : Text → Endpoint

/-- A route below the common start of all paths but one. -/
def Route.api (method : Method) (shape : List (Option String)) (endpoint : Text → Endpoint) :
    Route :=
  ⟨method, some "api" :: some "v1" :: shape, endpoint⟩

/-- The routes of the service. -/
def routes : List Route := [
  .api .get [some "contacts"] fun _ => .search,
  .api .post [some "contacts"] fun _ => .createContact,
  .api .post [some "contacts", some "ids"] fun _ => .matchingIds,
  .api .get [some "contacts", none] .contact,
  .api .put [some "contacts", none] .updateContact,
  .api .delete [some "contacts", none] .deleteContact,
  .api .post [some "contacts", none, some "reactivate"] .reactivateContact,
  .api .get [some "contacts", none, some "versions"] .versions,
  .api .post [some "restore", some "version"] fun _ => .restoreVersion,
  .api .post [some "restore", some "date"] fun _ => .restoreAll,
  .api .get [some "groups"] fun _ => .groups,
  .api .post [some "groups"] fun _ => .createGroup,
  .api .get [some "groups", none] .group,
  .api .put [some "groups", none] .updateGroup,
  .api .delete [some "groups", none] .deleteGroup,
  .api .post [some "groups", none, some "contacts"] .addMembers,
  .api .delete [some "groups", none, some "contacts"] .removeMembers,
  .api .get [some "settings", some "display"] fun _ => .display,
  .api .put [some "settings", some "display"] fun _ => .updateDisplay,
  .api .post [some "uploads"] fun _ => .importCsv,
  .api .get [some "uploads"] fun _ => .uploads,
  .api .post [some "cleanup", none] .cleanup,
  ⟨.get, [some "health"], fun _ => .health⟩]

/-- The word that stands for something when words have a shape; empty if no word does. A line end
behind the last word does not count. -/
def wordFor? : List (Option String) → List Text → Option Text
  | [], [] => some []
  | [some w], [t] =>
    if t == Text.ofString w || t == Text.ofString w ++ ['\n'] then some [] else none
  | some w :: shape, t :: rest => if t == Text.ofString w then wordFor? shape rest else none
  | none :: shape, t :: rest =>
    if t.isEmpty then none
    else match wordFor? shape rest with
      | some _ => some t
      | none => none
  | _, _ => none

/-- The endpoint to which a route leads from a path, whatever the method. -/
def Route.endpoint? (route : Route) (path : Text) : Option Endpoint :=
  match words? path with
  | none => none
  | some words => (wordFor? route.shape words).map route.endpoint

/-- The routes that fit a path, with the endpoints to which they lead. -/
def found (path : Text) : List (Method × Endpoint) :=
  routes.filterMap fun route => (route.endpoint? path).map (route.method, ·)

/-- What comes of looking for a path. -/
inductive Lookup where
  | endpoint (e : Endpoint)
  /-- The path exists, but not for this method. -/
  | wrongMethod
  /-- The path exists without the slashes at its end. -/
  | misspelt
  | unknown

/-- Looks for a path and a method. -/
def lookup (m : Method) (path : Text) : Lookup :=
  match (found path).find? (·.1 == m), found path with
  | some (_, e), _ => .endpoint e
  | none, _ :: _ => .wrongMethod
  | none, [] =>
    if path.getLast? == some '/' && !(found (withoutSlashes path)).isEmpty then .misspelt
    else .unknown

end AddressBook.Http
