import AddressBook.Proofs.Http.Atomicity
import AddressBook.Proofs.Service.Membership

/-!
What a request to add members to a group, or to remove some, tells of their number. The number
removed is that of the memberships that are gone. The number added is that of the contacts asked
for, whether they are members already or not.
-/
namespace AddressBook.Http

open AddressBook.Action Schema

/-- A request names contacts for a group: they are to become members, or to be members no more. -/
structure Names (e : Text → Endpoint) (r : Request) (group : Uuid) (contacts : List Uuid) :
    Prop where
  path : ∃ word, lookup r.method (pathOf r.path) = .endpoint (e word) ∧
    pathId "group_id" word = .ok group
  body : ∃ p, r.payload = .ok p ∧ p.read memberIds = .ok contacts

/-- A request is answered by a number that goes with those of the members before and after it; or
it fails, because there is no such group or a write is refused, and then nothing is written. -/
def Counts (env : Conditions) (s : Service) (r : Request) (group : Uuid)
    (P : Nat → Nat → Nat → Prop) : Prop :=
  (∃ n, (respond env s r).1 = .answer 200 (Answer.membership group n).toJson ∧
    P (s.store.tables.memberCount group) ((respond env s r).2.store.tables.memberCount group) n) ∨
  ∃ f, (respond env s r).1 = .ofFailure f ∧
    (s.store.tables.group? group = none ∧ f = .noGroup group ∨ env.Refuses f) ∧
    (respond env s r).2.store.tables = s.store.tables

variable {env : Conditions} {s : Service} {r : Request} {group : Uuid} {contacts : List Uuid}
  {steps : List Step} {P : Nat → Nat → Nat → Prop} {e : Text → Endpoint}
  {op : Uuid → List Uuid → Operation}

/-- The answer to the operation behind such a request. -/
theorem Names.respond (env : Conditions) (hrun : s.running) (hr : Names e r group contacts)
    (htakes : ∀ word, (e word).takesPayload) (hsuccess : ∀ word, (e word).success = 200)
    (hop : ∀ word p, (e word).operation? s.settings r p =
      some (Checked.on ((pathId "group_id" word).map op) (p.read memberIds))) :
    respond env s r = (.ofResult 200 (s.store.answer ⟨env, op group contacts⟩),
      { s with store := s.store.next ⟨env, op group contacts⟩ }) := by
  obtain ⟨⟨word, hlookup, hid⟩, p, hp, hread⟩ := hr
  have hasked : (e word).asked? s r = some (op group contacts) := by
    apply Endpoint.asked_of_payload (htakes word) hp
    rw [hop, hid, hread]
    rfl
  rw [respond_of_asked env hrun hlookup hasked, hsuccess]

/-- The members of the group are replaced, and a number is answered. -/
theorem counts_of_reseated {n : Nat} {members : Finset Uuid} (hs : s.store = Store.run {} steps)
    (hresponse : respond env s r = (.ofResult 200 (s.store.answer ⟨env, op group contacts⟩),
      { s with store := s.store.next ⟨env, op group contacts⟩ }))
    (h : Ends s.store ⟨env, op group contacts⟩
      (fun f => s.store.tables.group? group = none ∧ f = .noGroup group)
      fun a t => (s.store.tables.group? group).isSome ∧ a = .membership group n ∧
        Reseated group members s.store.tables t)
    (hP : P (s.store.tables.memberSet group).card members.card n) : Counts env s r group P := by
  have hnumbered : Numbered s.store := hs ▸ numbered_run numbered_empty steps
  have henrolled : Enrolled s.store := hs ▸ enrolled_run numbered_empty enrolled_empty steps
  unfold Counts
  rw [hresponse]
  obtain ⟨_, ha, -, rfl, hseated⟩ | ⟨f, hf, hfails, hsame⟩ := h.cases
  · have hafter := (enrolled_next hnumbered henrolled ⟨env, op group contacts⟩).memberCount group
    refine .inl ⟨n, by rw [ha]; rfl, ?_⟩
    dsimp only
    rw [henrolled.memberCount, hafter, hseated.members]
    exact hP
  · exact .inr ⟨f, by rw [hf]; rfl, hfails, hsame⟩

/-- After any run, the number that a request for new members tells is that of the contacts it names.
It exceeds that of the new memberships by the contacts that were members already. The number that a
request to remove members tells is that of the memberships that are gone. -/
theorem memberships_counted (env : Conditions) (hrun : s.running)
    (hs : s.store = Store.run {} steps) :
    ((∀ c ∈ contacts, (s.store.tables.contact? c).isSome) → Names .addMembers r group contacts →
      Counts env s r group fun before after n => n = contacts.toFinset.card ∧
        after + (s.store.tables.memberSet group ∩ contacts.toFinset).card = before + n ∧
        (after = before + n ↔ ∀ c ∈ contacts, c ∉ s.store.tables.memberIds group)) ∧
    (Names .removeMembers r group contacts →
      Counts env s r group fun before after n => after + n = before) := by
  have halgebra : SetAlgebra env s.store :=
    hs ▸ (enrolled_run numbered_empty enrolled_empty steps).setAlgebra env
  constructor
  · intro hcs hr
    refine counts_of_reseated hs (hr.respond env hrun (fun _ => rfl) (fun _ => rfl)
      fun _ _ => rfl) (halgebra.added group contacts hcs) ?_
    have hcard := Finset.card_union_add_card_inter (s.store.tables.memberSet group)
      contacts.toFinset
    refine ⟨rfl, hcard, ?_⟩
    have hnone : (s.store.tables.memberSet group ∩ contacts.toFinset).card = 0 ↔
        ∀ c ∈ contacts, c ∉ s.store.tables.memberIds group := by
      rw [Finset.card_eq_zero, ← Finset.disjoint_iff_inter_eq_empty, disjoint_comm,
        Finset.disjoint_left]
      simp [Tables.memberSet]
    rw [← hnone]
    omega
  · intro hr
    refine counts_of_reseated hs (hr.respond env hrun (fun _ => rfl) (fun _ => rfl)
      fun _ _ => rfl) (halgebra.removed group contacts) ?_
    exact Finset.card_sdiff_add_card_inter _ _

/-- The request to make contacts members of the first group; their identifiers are given as they
stand in an array. -/
def joining (ids : String) : Request where
  method := .post
  path := Text.ofString "/api/v1/groups/b0000000-0000-4000-8000-000000000001/contacts"
  contentType := some (Text.ofString "application/json")
  body := (Text.ofString ("\x7b\"contact_ids\":[" ++ ids ++ "]\x7d")).map fun c => c.val.toUInt8

theorem names_joining {ids : String}
    (hread : ((joining ids).payload.toOption.bind fun p => (p.read memberIds).toOption) =
      some contacts) : Names .addMembers (joining ids) (.numbered 0xb0 1) contacts := by
  have hplain : pathOf (joining "").path = (joining "").path := by decide +kernel
  have hlookup : lookup (joining ids).method (pathOf (joining ids).path) = .endpoint
      (.addMembers (Text.ofString "b0000000-0000-4000-8000-000000000001")) :=
    (congrArg (lookup .post) hplain).trans rfl
  obtain ⟨p, hp, hids⟩ := Option.bind_eq_some_iff.1 hread
  exact ⟨⟨_, hlookup, rfl⟩, p, of_toOption hp, of_toOption hids⟩

/-- Two contacts and a group are created, and the first contact becomes a member of the group. -/
def bobIn : List Step :=
  [⟨.fair 1, .createContact { name := some ['B', 'o', 'b'] }⟩,
    ⟨.fair 2, .createContact { name := some ['A', 'n', 'n'] }⟩,
    ⟨.fair 3, .createGroup { name := ['a'], description := none, color := [] }⟩,
    ⟨.fair 4, .addMembers (.numbered 0xb0 1) [.numbered 0xc0 1]⟩]

/-- The request to make both contacts members, the second of them twice. -/
def bothAdded : Request := joining "\"c0000000-0000-4000-8000-000000000002\",
  \"c0000000-0000-4000-8000-000000000001\", \"c0000000-0000-4000-8000-000000000002\""

theorem names_bothAdded : Names .addMembers bothAdded (.numbered 0xb0 1)
    [.numbered 0xc0 2, .numbered 0xc0 1, .numbered 0xc0 2] :=
  names_joining (by decide +kernel)

theorem memberships_counted_bothAdded :
    (respond (.fair 5) { store := Store.run {} bobIn } bothAdded).1 =
      .answer 200 (Answer.membership (.numbered 0xb0 1) 2).toJson ∧
    (Store.run {} bobIn).tables.memberCount (.numbered 0xb0 1) = 1 ∧
    (respond (.fair 5) { store := Store.run {} bobIn } bothAdded).2.store.tables.memberCount
      (.numbered 0xb0 1) = 2 := by
  have hbefore : (Store.run {} bobIn).tables.memberCount (.numbered 0xb0 1) = 1 := by decide
  have hcounts := (memberships_counted (.fair 5) (s := { store := Store.run {} bobIn }) rfl
    rfl).1 (by decide) names_bothAdded
  obtain ⟨n, hn, htwo, hsum, -⟩ | ⟨f, -, ⟨hgone, -⟩ | hrefuses, -⟩ := hcounts
  · have hnamed : n = 2 := by
      rw [htwo]
      decide
    have hboth : ((Store.run {} bobIn).tables.memberSet (.numbered 0xb0 1) ∩
        [.numbered 0xc0 2, .numbered 0xc0 1, .numbered 0xc0 2].toFinset).card = 1 := by
      decide
    subst hnamed
    dsimp only at hsum
    rw [hboth, hbefore] at hsum
    exact ⟨hn, hbefore, Nat.add_right_cancel (hsum.trans (Nat.add_comm 1 2))⟩
  · exact absurd hgone (by decide)
  · exact ((Conditions.calm_fair 5).not_refuses f hrefuses).elim

/-- The request to make the first contact a member. -/
def bobAdded : Request := joining "\"c0000000-0000-4000-8000-000000000001\""

theorem names_bobAdded : Names .addMembers bobAdded (.numbered 0xb0 1) [.numbered 0xc0 1] :=
  names_joining (by decide +kernel)

/-- A contact that is a member already counts as a new one. -/
theorem memberships_counted_again :
    (respond (.fair 5) { store := Store.run {} bobIn } bobAdded).1 =
      .answer 200 (Answer.membership (.numbered 0xb0 1) 1).toJson ∧
    (Store.run {} bobIn).tables.memberCount (.numbered 0xb0 1) = 1 ∧
    (respond (.fair 5) { store := Store.run {} bobIn } bobAdded).2.store.tables.memberCount
      (.numbered 0xb0 1) = 1 := by
  have hresponse := names_bobAdded.respond (s := { store := Store.run {} bobIn }) (.fair 5) rfl
    (fun _ => rfl) (fun _ => rfl) fun _ _ => rfl
  rw [hresponse]
  exact ⟨rfl, by decide, by decide⟩

end AddressBook.Http
