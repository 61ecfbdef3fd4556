import AddressBook.Proofs.Http.Sessions
import AddressBook.Proofs.Schema.Reading
import AddressBook.Proofs.Service.Membership

/-!
When requests about groups are answered by a server error although no write is refused: for members
that are no contacts, for texts that the store has no room for, and for faults that cannot be shown.
-/
namespace AddressBook

open AddressBook.Action

/-- Whether an operation is about groups. -/
def Operation.aboutGroups : Operation → Bool
  | groups | createGroup _ | group _ | updateGroup _ _ | deleteGroup _ | addMembers _ _
  | removeMembers _ _ => true
  | _ => false

/-- A group after changes that are asked for. -/
def Group.revised (g : Group) (changes : Schema.GroupChanges) : Group :=
  g.changed changes.name.join changes.description changes.color.join

/-- What operations on groups do not look out for: new members that are no contacts, and texts for
which the store has no room. -/
def Overlooked (env : Conditions) (t : Tables) : Operation → Prop
  | .addMembers group contacts =>
    (t.group? group).isSome ∧ ∃ c ∈ contacts, t.contact? c = none
  | .createGroup r => ¬ env.Fits [r.name, r.description, r.color]
  | .updateGroup id changes =>
    Operation.groupFault changes = none ∧ ∃ g, t.group? id = some g ∧ g.revised changes ≠ g ∧
      ¬ env.Fits (g.revised changes).texts
  | _ => False

namespace Http

variable {env : Conditions} {s : Store} {op : Operation}

/-- A failure that a client can mend. -/
def Mendable (f : Failure) : Prop := (Response.ofFailure f).status < 500

theorem mendable_noGroup (id : Uuid) : Mendable (.noGroup id) := by
  simp [Mendable, Failure.noGroup, Response.ofFailure, Response.ofDomainError,
    DomainError.resource?, Response.status]

theorem mendable_groupFault {changes : Schema.GroupChanges} {e : DomainError}
    (h : Operation.groupFault changes = some e) : Mendable (.domain e) := by
  unfold Operation.groupFault at h
  split at h <;> cases h <;>
    simp [Mendable, Response.ofFailure, Response.ofDomainError, Response.status]

theorem not_mendable_integrity : ¬ Mendable .integrity := by
  simp [Mendable, Response.ofFailure, Response.status]

theorem not_mendable_unencodable (run : Half.Run) : ¬ Mendable (.unencodable run) := by
  simp [Mendable, Response.ofFailure, Response.status]

/-- An operation fails in a way that no client can mend for what was overlooked, and only then. -/
abbrev Watched (env : Conditions) (t : Tables) (op : Operation) (f : Failure) : Prop :=
  Mendable f ↔ ¬ Overlooked env t op

theorem watched_noGroup {id : Uuid} (h : ¬ Overlooked env s.tables op) :
    Watched env s.tables op (.noGroup id) := ⟨fun _ => h, fun _ => mendable_noGroup id⟩

theorem watched_integrity (h : Overlooked env s.tables op) :
    Watched env s.tables op .integrity :=
  ⟨fun hm => (not_mendable_integrity hm).elim, fun hn => (hn h).elim⟩

theorem watched_unencodable {run : Half.Run} (h : Overlooked env s.tables op) :
    Watched env s.tables op (.unencodable run) :=
  ⟨fun hm => (not_mendable_unencodable run hm).elim, fun hn => (hn h).elim⟩

theorem watched_addMembers (h : Enrolled s) (group : Uuid) (contacts : List Uuid) :
    Yields env ((Operation.addMembers group contacts).run env) s
      (Watched env s.tables (.addMembers group contacts))
      fun _ _ => ¬ Overlooked env s.tables (.addMembers group contacts) := by
  refine (Groups.yields_addMembers contacts ?_ ?_).answer ?_
  · intro hg
    apply watched_noGroup
    rintro ⟨hthere, -⟩
    rw [hg] at hthere
    cases hthere
  · rintro hg ⟨c, hc, habsent⟩
    exact watched_integrity ⟨hg, c, (Groups.mem_missing.1 hc).1, habsent⟩
  · rintro n s' ⟨-, -, hall, -⟩ ⟨-, c, hasked, habsent⟩
    have hsome : (s.tables.contact? c).isSome := by
      by_cases hc : c ∈ s.tables.memberIds group
      · -- whoever is a member already is a contact
        obtain ⟨m, hm, rfl, -⟩ := Tables.mem_memberIds.1 hc
        exact Tables.contact?_isSome_iff.2 (h.contacts m hm)
      · exact hall c (Groups.mem_missing.2 ⟨hasked, hc⟩)
    rw [habsent] at hsome
    cases hsome

theorem watched_updateGroup (id : Uuid) (changes : Schema.GroupChanges) :
    Yields env ((Operation.updateGroup id changes).run env) s
      (Watched env s.tables (.updateGroup id changes))
      fun _ _ => ¬ Overlooked env s.tables (.updateGroup id changes) := by
  refine Yields.bind (Q := fun _ _ => ¬ Overlooked env s.tables (.updateGroup id changes)) ?_
    fun g s' hg => yields_tables.bind fun _ _ _ => yields_pure hg
  show Yields env (Operation.changeGroup env id changes) _ _ _
  unfold Operation.changeGroup
  cases hf : Operation.groupFault changes with
  | some e =>
    refine yields_throw ⟨fun _ => ?_, fun _ => mendable_groupFault hf⟩
    rintro ⟨hallowed, -⟩
    rw [hf] at hallowed
    cases hallowed
  | none =>
    refine (Groups.yields_update _ _ _ ?_ ?_).mono ?_
    · intro hg
      apply watched_noGroup
      rintro ⟨-, g, hthere, -⟩
      rw [hg] at hthere
      cases hthere
    · intro g run hg hne hunfit
      exact watched_unencodable ⟨hf, g, hg, hne, hunfit⟩
    · rintro g' s' ⟨g, hg, houtcome⟩ ⟨-, x, hthere, hdiffers, hunfit⟩
      obtain rfl := Option.some.inj (hg.symm.trans hthere)
      obtain ⟨hsame, -⟩ | ⟨hfits, -⟩ := houtcome
      · exact hdiffers hsame
      · exact hunfit hfits

/-- Operations on groups fail beyond mending for what they overlook, and only for that. -/
theorem watched_run (h : Enrolled s) (hop : op.aboutGroups) :
    Yields env (op.run env) s (Watched env s.tables op)
      fun _ _ => ¬ Overlooked env s.tables op := by
  cases op with
  | groups =>
    exact Groups.yields_all.bind fun _ _ _ => yields_tables.bind fun _ _ _ =>
      yields_pure fun h => h
  | createGroup r =>
    refine (Groups.yields_create _ _ _ ?_).answer ?_
    · exact fun run hr => watched_unencodable hr
    · exact fun g s' hg hunfit => hunfit hg.1
  | group id =>
    refine Yields.bind (Groups.yields_get ?_) ?_
    · exact fun _ => watched_noGroup fun h => h
    · exact fun g s' _ => yields_tables.bind fun _ _ _ => yields_pure fun h => h
  | updateGroup id changes => exact watched_updateGroup id changes
  | deleteGroup id =>
    refine Yields.bind (Groups.yields_delete ?_) ?_
    · exact fun _ => watched_noGroup fun h => h
    · exact fun _ s' _ => yields_pure fun h => h
  | addMembers group contacts => exact watched_addMembers h group contacts
  | removeMembers group contacts =>
    refine (Groups.yields_removeMembers contacts ?_).answer ?_
    · exact fun _ => watched_noGroup fun h => h
    · exact fun _ _ _ h => h
  | _ => cases hop

/-- Without a refused write, an operation on groups is answered, or fails in a way that a client can
mend, unless something was overlooked. -/
theorem answer_mendable (h : Enrolled s) (hcalm : env.Calm) (hop : op.aboutGroups) :
    (∀ f, s.answer ⟨env, op⟩ = .error f → Mendable f) ↔ ¬ Overlooked env s.tables op := by
  have hends : Ends s ⟨env, op⟩ (Watched env s.tables op) fun _ _ => ¬ Overlooked env s.tables op :=
    (watched_run h hop).ends
  obtain ⟨a, ha, hwatched⟩ | ⟨f, hf, hwatched | hrefuses, -⟩ := hends.cases
  · refine iff_of_true (fun f hf => ?_) hwatched
    cases ha.symm.trans hf
  · refine Iff.trans ⟨fun hall => hall f hf, fun hm f' hf' => ?_⟩ hwatched
    cases hf.symm.trans hf'
    exact hm
  · exact (hcalm.not_refuses f hrefuses).elim

/-! ### Requests -/

/-- Whether an endpoint is about groups. -/
def Endpoint.aboutGroups : Endpoint → Bool
  | groups | createGroup | group _ | updateGroup _ | deleteGroup _ | addMembers _
  | removeMembers _ => true
  | _ => false

/-- Whether a request leads to an endpoint about groups. -/
def Request.aboutGroups (r : Request) : Bool :=
  match lookup r.method (pathOf r.path) with
  | .endpoint e => e.aboutGroups
  | _ => false

theorem Endpoint.aboutGroups_asked {e : Endpoint} {s : Service} {r : Request}
    (he : e.aboutGroups) (h : e.asked? s r = some op) : op.aboutGroups := by
  obtain ⟨p, -, hp⟩ := Option.bind_eq_some_iff.1 h
  obtain ⟨checked, hchecked, hop⟩ := Option.bind_eq_some_iff.1 hp
  cases e with
  | groups =>
    cases hchecked
    cases hop
    rfl
  | createGroup | group | deleteGroup =>
    cases hchecked
    obtain ⟨a, -, rfl⟩ := Schema.Checked.of_map (Schema.of_toOption hop)
    rfl
  | updateGroup | addMembers | removeMembers =>
    cases hchecked
    obtain ⟨_, b, hread, -, rfl⟩ := Schema.Checked.of_on (Schema.of_toOption hop)
    obtain ⟨a, -, rfl⟩ := Schema.Checked.of_map hread
    rfl
  | _ => cases he

theorem Request.aboutGroups_asked {s : Service} {r : Request} (hr : r.aboutGroups)
    (h : asked? s r = some op) : op.aboutGroups := by
  unfold Request.aboutGroups at hr
  unfold asked? at h
  cases hl : lookup r.method (pathOf r.path) with
  | endpoint e =>
    rw [hl] at hr h
    exact e.aboutGroups_asked hr h
  | _ =>
    rw [hl] at hr
    cases hr

theorem session_enrolled (calls : List Call) : Enrolled (session {} calls).store := by
  obtain ⟨steps, hsteps⟩ := session_steps {} calls
  rw [hsteps]
  exact enrolled_run numbered_empty enrolled_empty steps

theorem session_running (calls : List Call) : (session {} calls).running := by
  obtain ⟨steps, hsteps⟩ := session_steps {} calls
  rw [hsteps]

/-- After any requests, one about groups of which no write is refused is answered without a server
error, unless its faults cannot be shown or it asks for something that is overlooked. -/
theorem groups_status_iff (calls : List Call) {env : Conditions} {r : Request} (hcalm : env.Calm)
    (hr : r.aboutGroups) :
    (respond env (session {} calls) r).1.status < 500 ↔
      unshowable? (session {} calls) r = none ∧
        ∀ op, asked? (session {} calls) r = some op →
          ¬ Overlooked env (session {} calls).store.tables op := by
  rw [status_respond (session_running calls)]
  apply and_congr_right'
  apply forall₂_congr
  intro op hop
  exact answer_mendable (session_enrolled calls) hcalm (Request.aboutGroups_asked hr hop)

/-- The body of a request that is a JSON object. -/
def jsonBody (content : String) : List UInt8 :=
  (Text.ofString content).map fun c => c.val.toUInt8

/-- A group is created, without any contact there is. -/
def groupCreated : List Call :=
  [⟨.fair 1, {
    method := .post
    path := Text.ofString "/api/v1/groups"
    contentType := some (Text.ofString "application/json")
    body := jsonBody "\x7b\"name\":\"a\"\x7d" }⟩]

/-- The request to make somebody a member of the group. -/
def strangerAdded : Request where
  method := .post
  path := Text.ofString "/api/v1/groups/b0000000-0000-4000-8000-000000000001/contacts"
  contentType := some (Text.ofString "application/json")
  body := jsonBody "\x7b\"contact_ids\":[\"c0000000-0000-4000-8000-000000000001\"]\x7d"

theorem groups_status_iff_stranger :
    (Conditions.fair 2).Calm ∧ strangerAdded.aboutGroups ∧
      unshowable? (session {} groupCreated) strangerAdded = none ∧
      ∃ op, asked? (session {} groupCreated) strangerAdded = some op ∧
        Overlooked (.fair 2) (session {} groupCreated).store.tables op := by
  have hcalm := Conditions.calm_fair 2
  have habout : strangerAdded.aboutGroups := by decide +kernel
  have hshown : unshowable? (session {} groupCreated) strangerAdded = none :=
    Option.isNone_iff_eq_none.1 (by decide +kernel)
  refine ⟨hcalm, habout, hshown, ?_⟩
  by_contra hnone
  have hlow := (groups_status_iff groupCreated hcalm habout).2
    ⟨hshown, fun op hop hover => hnone ⟨op, hop, hover⟩⟩
  exact absurd hlow (by decide +kernel)

/-- A stranger cannot become a member, and the answer is a server error. -/
theorem groups_status_stranger : ¬ ∀ (calls : List Call) (env : Conditions) (r : Request),
    env.Calm → r.aboutGroups → (respond env (session {} calls) r).1.status < 500 := by
  intro h
  have hlow := h groupCreated (.fair 2) strangerAdded (Conditions.calm_fair 2) (by decide +kernel)
  exact absurd hlow (by decide +kernel)

end Http
end AddressBook
