import AddressBook.Proofs.Http.Atomicity
import AddressBook.Proofs.Search.Paging

/-!
The size of the pages that a search is answered with. Requests can only name sizes from one contact
up, but settings may hold any integer. Where they come to a size of no contact at all, the number of
pages is a division by zero.
-/
namespace AddressBook

open AddressBook.Action

namespace Contacts

variable {env : Conditions} {s s' : Store} {l : Listing} {query : Text}

end Contacts

namespace Http

open Contacts Schema

/-- A request asks for a page of a search. -/
structure Searches (r : Request) (q : SearchParameters) : Prop where
  path : lookup r.method (pathOf r.path) = .endpoint .search
  query : r.ask searchParameters = .ok q

/-- The settings give a page some contacts, if a request does not. -/
structure Roomy (s : Settings) (limit : Option Int) : Prop where
  greatest : 1 ≤ s.maxPageSize
  default : limit = none → 1 ≤ s.defaultPageSize

/-- A response shows a page of a given size. If that is room for a contact, all such pages together
hold what was found. -/
def Shows (answer : Response) (size : Int) : Prop :=
  ∃ page : Page, answer = .answer 200 (Answer.page page).toJson ∧ page.size = size ∧
    (1 ≤ size → page.total < 2 ^ 53 → (page.total : Int) ≤ page.count * size)

variable {env : Conditions} {s : Service} {r : Request} {q : SearchParameters} {m : Members}

theorem limit_of_searchParameters (h : searchParameters m = .ok q) {n : Int}
    (hn : q.limit = some n) : 1 ≤ n := by
  obtain ⟨_, group, h₅, -, rfl⟩ := Checked.of_on h
  obtain ⟨_, order, h₄, -, rfl⟩ := Checked.of_on h₅
  obtain ⟨_, key, h₃, -, rfl⟩ := Checked.of_on h₄
  obtain ⟨_, limit, h₂, hlimit, rfl⟩ := Checked.of_on h₃
  obtain ⟨_, page, h₁, -, rfl⟩ := Checked.of_on h₂
  obtain ⟨_, search, h₀, -, rfl⟩ := Checked.of_on h₁
  cases h₀
  obtain rfl : limit = some n := hn
  obtain ⟨⟨⟩⟩ | ⟨v, hread⟩ := of_defaulted hlimit
  exact (of_integerWithin (of_nullable hread)).1

theorem Searches.limit (h : Searches r q) {n : Int} (hn : q.limit = some n) : 1 ≤ n :=
  limit_of_searchParameters (Checked.of_under h.query) hn

theorem Searches.asked (h : Searches r q) :
    Endpoint.search.asked? s r = some (.search q.search (q.listing s.settings)) := by
  unfold Endpoint.asked? Endpoint.operation?
  rw [h.query]
  rfl

/-- The answer to the operation behind the request. -/
theorem Searches.respond (env : Conditions) (hrun : s.running) (h : Searches r q) :
    (respond env s r).1 = .ofResult 200
      (s.store.answer ⟨env, .search q.search (q.listing s.settings)⟩) := by
  rw [respond_of_asked env hrun h.path h.asked]
  rfl

/-! ### What the operation answers -/

section

variable {t : Store} {query : Text} {l : Listing}

end

end Http
end AddressBook
