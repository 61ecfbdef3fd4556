import Mathlib.Data.Finset.Card
import AddressBook.Proofs.Service.Growing
import AddressBook.Proofs.Service.Run
import AddressBook.Proofs.Store.Groups

/-!
Groups are sets of contacts. Adding and removing members are union and difference, whatever
identifiers come twice, and nothing but the one group is touched.
-/
namespace AddressBook

open AddressBook.Action

variable {env : Conditions} {s s' : Store} {t t' : Tables} {group : Uuid}

/-- The pair of identifiers that a membership stands for. -/
def Membership.pair (m : Membership) : Uuid × Uuid := (m.contact, m.group)

/-- No membership is there twice, each is one of a contact that there is in a group that there is,
and identifiers of groups were given out. -/
structure Enrolled (s : Store) : Prop where
  pairs : (s.tables.members.map Membership.pair).Nodup
  contacts : ∀ m ∈ s.tables.members, m.contact ∈ s.tables.contacts.map (·.id)
  groups : ∀ m ∈ s.tables.members, m.group ∈ s.tables.groups.map (·.id)
  given : ∀ id ∈ s.tables.groups.map (·.id), ∃ n ≤ s.issued.groups, id = .numbered 0xb0 n

/-- The members of one group are replaced, and nothing else is. -/
structure Reseated (group : Uuid) (members : Finset Uuid) (t t' : Tables) : Prop where
  members : t'.memberSet group = members
  others : t'.members.filter (·.group != group) = t.members.filter (·.group != group)
  rest : t' = { t with members := t'.members }

/-- What operations on groups come to: the memberships of a group are a set, they are united with
others or others are taken away from them, and counted. They fail only because a group is not there,
a text has no room, or a write is refused. -/
structure SetAlgebra (env : Conditions) (s : Store) : Prop where
  pairs : (s.tables.members.map Membership.pair).Nodup
  created : ∀ r : Schema.NewGroup, Ends s ⟨env, .createGroup r⟩
    (fun e => ¬ env.Fits [r.name, r.description, r.color] ∧ ∃ run, e = .unencodable run)
    fun a t => ∃ g, a = .group g 0 ∧ s.tables.group? g.id = none ∧ t.memberSet g.id = ∅ ∧
      t = { s.tables with groups := s.tables.groups ++ [g] }
  added : ∀ group contacts, (∀ c ∈ contacts, (s.tables.contact? c).isSome) →
    Ends s ⟨env, .addMembers group contacts⟩
      (fun e => s.tables.group? group = none ∧ e = .noGroup group)
      fun a t => (s.tables.group? group).isSome ∧
        a = .membership group contacts.toFinset.card ∧
        Reseated group (s.tables.memberSet group ∪ contacts.toFinset) s.tables t
  removed : ∀ group contacts, Ends s ⟨env, .removeMembers group contacts⟩
    (fun e => s.tables.group? group = none ∧ e = .noGroup group)
    fun a t => (s.tables.group? group).isSome ∧
      a = .membership group (s.tables.memberSet group ∩ contacts.toFinset).card ∧
      Reseated group (s.tables.memberSet group \ contacts.toFinset) s.tables t
  deleted : ∀ group, Ends s ⟨env, .deleteGroup group⟩
    (fun e => s.tables.group? group = none ∧ e = .noGroup group)
    fun a t => (s.tables.group? group).isSome ∧ a = .done ∧
      t = { s.tables with
        groups := s.tables.groups.filter (·.id != group)
        members := s.tables.members.filter (·.group != group) }
  counted : ∀ group, Ends s ⟨env, .group group⟩
    (fun e => s.tables.group? group = none ∧ e = .noGroup group)
    fun a t => t = s.tables ∧ ∃ g, s.tables.group? group = some g ∧
      a = .group g (s.tables.memberSet group).card
  listed : Ends s ⟨env, .groups⟩ (fun _ => False) fun a t => t = s.tables ∧
    ∃ gs : List Group, gs.Perm s.tables.groups ∧
      a = .groups (gs.map fun g => (g, (s.tables.memberSet g.id).card))

/-! ### Sets of members -/

theorem Tables.memberIds_append (rows : List Membership)
    (h : t'.members = t.members ++ rows) (group : Uuid) :
    t'.memberIds group = t.memberIds group ++
      (rows.filter (·.group == group)).map (·.contact) := by
  rw [memberIds, memberIds, h, List.filter_append, List.map_append]

theorem Enrolled.nodup_memberIds (h : Enrolled s) (group : Uuid) :
    (s.tables.memberIds group).Nodup := by
  have hrows : ((s.tables.members.filter (·.group == group)).map Membership.pair).Nodup :=
    h.pairs.sublist (List.filter_sublist.map _)
  -- in one group the contact alone tells memberships apart
  apply List.Nodup.of_map fun c => (c, group)
  rw [Tables.memberIds, List.map_map]
  refine (List.map_congr_left ?_).symm ▸ hrows
  intro m hm
  have hg : m.group = group := by simpa using (List.mem_filter.1 hm).2
  simp [Membership.pair, hg]

theorem Enrolled.memberCount (h : Enrolled s) (group : Uuid) :
    s.tables.memberCount group = (s.tables.memberSet group).card :=
  (List.toFinset_card_of_nodup (h.nodup_memberIds group)).symm

theorem card_toFinset (ids : List Uuid) : ids.toFinset.card = (distinct ids).length := by
  rw [← List.toFinset_card_of_nodup (nodup_distinct ids)]
  congr 1
  ext c
  simp [mem_distinct]

/-- New memberships in one group. -/
theorem filter_newMember (p : Uuid → Bool) (cs : List Uuid) :
    (cs.map (Groups.newMember env group)).filter (fun m => p m.group) =
      if p group then cs.map (Groups.newMember env group) else [] := by
  induction cs with
  | nil => simp
  | cons c rest ih =>
    rw [List.map_cons, List.filter_cons, ih]
    cases hp : p group <;> simp [Groups.newMember, hp]

theorem reseated_added (contacts : List Uuid)
    (h : t' = { t with
      members := t.members ++
        (Groups.missing t group contacts).map (Groups.newMember env group) }) :
    Reseated group (t.memberSet group ∪ contacts.toFinset) t t' := by
  subst h
  refine ⟨?_, ?_, rfl⟩
  · ext c
    rw [Tables.memberSet, Tables.memberIds_append _ rfl, filter_newMember (· == group)]
    simp only [beq_self_eq_true, if_true, List.map_map, List.toFinset_append, Finset.mem_union,
      Tables.memberSet, List.mem_toFinset]
    rw [show (·.contact) ∘ Groups.newMember env group = id from rfl, List.map_id,
      Groups.mem_missing]
    tauto
  · show (t.members ++ _).filter _ = _
    rw [List.filter_append, filter_newMember (· != group)]
    simp

theorem reseated_removed (contacts : List Uuid)
    (h : t' = { t with members := t.members.filter (!Groups.leaves group contacts ·) }) :
    Reseated group (t.memberSet group \ contacts.toFinset) t t' := by
  subst h
  refine ⟨?_, ?_, rfl⟩
  · ext c
    simp only [Tables.memberSet, Finset.mem_sdiff, List.mem_toFinset, Tables.mem_memberIds,
      List.mem_filter]
    constructor
    · rintro ⟨m, ⟨hm, hstays⟩, rfl, rfl⟩
      exact ⟨⟨m, hm, rfl, rfl⟩, by simpa [Groups.leaves] using hstays⟩
    · rintro ⟨⟨m, hm, rfl, rfl⟩, hc⟩
      exact ⟨m, ⟨hm, by simpa [Groups.leaves] using hc⟩, rfl, rfl⟩
  · show (t.members.filter _).filter _ = _
    rw [List.filter_filter]
    apply List.filter_congr
    intro m _
    cases hg : m.group == group <;> simp [Groups.leaves, bne, hg]

theorem Enrolled.card_leaving (h : Enrolled s) (group : Uuid) (contacts : List Uuid) :
    (s.tables.members.filter (Groups.leaves group contacts)).length =
      (s.tables.memberSet group ∩ contacts.toFinset).card := by
  have hleaving : s.tables.memberSet group ∩ contacts.toFinset =
      ((s.tables.memberIds group).filter (contacts.contains ·)).toFinset := by
    ext c
    simp [Tables.memberSet]
  rw [hleaving, List.toFinset_card_of_nodup ((h.nodup_memberIds group).filter _),
    Tables.memberIds, List.filter_map, List.length_map, List.filter_filter]
  congr 1
  apply List.filter_congr
  intro m _
  simp [Groups.leaves, Bool.and_comm]

/-! ### What steps keep -/

theorem enrolled_empty : Enrolled {} := ⟨List.nodup_nil, by simp, by simp, by simp⟩

theorem Enrolled.tables (h : Enrolled s) (ht : s'.tables = s.tables)
    (hi : s.issued ≤ s'.issued) : Enrolled s' := by
  obtain ⟨pairs, contacts, groups, given⟩ := h
  rw [← ht] at pairs contacts groups given
  refine ⟨pairs, contacts, groups, ?_⟩
  intro id hid
  obtain ⟨n, hn, rfl⟩ := given id hid
  exact ⟨n, Nat.le_trans hn hi.2.2.1, rfl⟩

theorem Enrolled.grown (h : Enrolled s) (hg : Grown s s') : Enrolled s' := by
  refine ⟨hg.members ▸ h.pairs, ?_, ?_, ?_⟩
  · intro m hm
    exact hg.ids.subset (h.contacts m (hg.members ▸ hm))
  · intro m hm
    rw [hg.groups]
    exact h.groups m (hg.members ▸ hm)
  · intro id hid
    rw [hg.groups] at hid
    obtain ⟨n, hn, rfl⟩ := h.given id hid
    exact ⟨n, Nat.le_trans hn hg.issued.2.2.1, rfl⟩

/-- The identifier of a new group is not that of another. -/
theorem Enrolled.fresh (h : Enrolled s) :
    .numbered 0xb0 (s.issued.groups + 1) ∉ s.tables.groups.map (·.id) :=
  fun hid => Uuid.ne_numbered_succ (h.given _ hid) rfl

/-- A new group, or new values of one. -/
theorem Enrolled.regrouped (h : Enrolled s) (hc : s'.tables.contacts = s.tables.contacts)
    (hm : s'.tables.members = s.tables.members)
    (hsub : s.tables.groups.map (·.id) ⊆ s'.tables.groups.map (·.id))
    (hgiven : ∀ id ∈ s'.tables.groups.map (·.id), id ∈ s.tables.groups.map (·.id) ∨
      id = .numbered 0xb0 s'.issued.groups)
    (hi : s.issued.groups ≤ s'.issued.groups) : Enrolled s' := by
  refine ⟨hm ▸ h.pairs, ?_, ?_, ?_⟩
  · intro m hmem
    exact hc ▸ h.contacts m (hm ▸ hmem)
  · intro m hmem
    exact hsub (h.groups m (hm ▸ hmem))
  · intro id hid
    obtain hid | rfl := hgiven id hid
    · obtain ⟨n, hn, rfl⟩ := h.given id hid
      exact ⟨n, Nat.le_trans hn hi, rfl⟩
    · exact ⟨_, Nat.le_refl _, rfl⟩

/-- Fewer memberships, and fewer groups of which none of them is one. -/
theorem Enrolled.filtered (h : Enrolled s) (p : Membership → Bool) (q : Group → Bool)
    (hpq : ∀ m, p m → ∀ g, g.id = m.group → q g) (n : Nat) :
    Enrolled { s with
      tables := { s.tables with
        members := s.tables.members.filter p
        groups := s.tables.groups.filter q }
      tried := n } := by
  refine ⟨h.pairs.sublist (List.filter_sublist.map _), ?_, ?_, ?_⟩
  · intro m hm
    exact h.contacts m (List.mem_filter.1 hm).1
  · intro m hm
    obtain ⟨hm, hp⟩ := List.mem_filter.1 hm
    obtain ⟨g, hg, hid⟩ := List.mem_map.1 (h.groups m hm)
    exact List.mem_map.2 ⟨g, List.mem_filter.2 ⟨hg, hpq m hp g hid⟩, hid⟩
  · intro id hid
    exact h.given id ((List.filter_sublist.map _).subset hid)

/-- New memberships of contacts that there are in a group that there is. -/
theorem Enrolled.extended (h : Enrolled s) (hg : group ∈ s.tables.groups.map (·.id))
    {cs : List Uuid} (hn : cs.Nodup) (hnew : ∀ c ∈ cs, c ∉ s.tables.memberIds group)
    (hcs : ∀ c ∈ cs, c ∈ s.tables.contacts.map (·.id)) (n : Nat) :
    Enrolled { s with
      tables := { s.tables with
        members := s.tables.members ++ cs.map (Groups.newMember env group) }
      tried := n } := by
  refine ⟨?_, ?_, ?_, h.given⟩
  · show ((s.tables.members ++ _).map _).Nodup
    rw [List.map_append, List.map_map, List.nodup_append]
    refine ⟨h.pairs, hn.map fun c d hcd => congrArg Prod.fst hcd, ?_⟩
    rintro x hx y hy rfl
    obtain ⟨m, hm, rfl⟩ := List.mem_map.1 hx
    obtain ⟨c, hc, hcm⟩ := List.mem_map.1 hy
    apply hnew c hc
    exact Tables.mem_memberIds.2 ⟨m, hm, (congrArg Prod.fst hcm).symm, (congrArg Prod.snd hcm).symm⟩
  · intro m hm
    rcases List.mem_append.1 hm with hm | hm
    · exact h.contacts m hm
    · obtain ⟨c, hc, rfl⟩ := List.mem_map.1 hm
      exact hcs c hc
  · intro m hm
    rcases List.mem_append.1 hm with hm | hm
    · exact h.groups m hm
    · obtain ⟨c, hc, rfl⟩ := List.mem_map.1 hm
      exact hg

theorem Tables.setGroup_ids (t : Tables) (g : Group) :
    (t.setGroup g).groups.map (·.id) = t.groups.map (·.id) := by
  simp only [setGroup, List.map_map]
  apply List.map_congr_left
  intro x _
  by_cases hx : x.id = g.id <;> simp [hx]

theorem Tables.mem_group_ids {t : Tables} {id : Uuid} {g : Group} (h : t.group? id = some g) :
    id ∈ t.groups.map (·.id) := by
  obtain ⟨hmem, hid⟩ := Tables.mem_of_group? h
  exact List.mem_map.2 ⟨g, hmem, hid⟩

theorem enrolled_updateGroup {id : Uuid} {name : Option Text} {description : Option (Option Text)}
    {color : Option Text} {g : Group} (h : Enrolled s)
    (hrun : Groups.update env id name description color s = .ok g s') : Enrolled s' := by
  obtain ⟨-, -, ⟨-, rfl, rfl⟩ | ⟨-, rfl, rfl⟩⟩ :=
    (Groups.yields_update (F := fun _ => True) name description color (fun _ => trivial)
      fun _ _ _ _ _ => trivial).ok hrun
  · exact h
  · refine h.regrouped rfl rfl ?_ ?_ (Nat.le_refl _)
    · exact fun id hid => (Tables.setGroup_ids _ _).symm ▸ hid
    · exact fun id hid => .inl (Tables.setGroup_ids _ _ ▸ hid)

/-- What an operation on groups writes keeps memberships in order. -/
theorem enrolled_regroups {op : Operation} (h : Enrolled s) (hop : op.regroups) {a : Answer}
    (hrun : op.run env s = .ok a s') : Enrolled s' := by
  cases op with
  | createGroup r =>
    obtain ⟨g, s₁, hg, h₁⟩ := bind_eq_ok.1 hrun
    cases h₁
    obtain ⟨-, rfl, rfl⟩ := (Groups.yields_create (F := fun _ => True) r.name r.description r.color
      fun _ _ => trivial).ok hg
    refine h.regrouped rfl rfl ?_ ?_ (Nat.le_succ _)
    · show _ ⊆ (s.tables.groups ++ [_]).map _
      rw [List.map_append]
      exact List.subset_append_left _ _
    · intro id hid
      change id ∈ (s.tables.groups ++ [_]).map _ at hid
      rw [List.map_append, List.mem_append] at hid
      exact hid.imp_right fun hid => List.mem_singleton.1 hid
  | updateGroup id changes =>
    obtain ⟨g, s₁, hg, h₁⟩ := bind_eq_ok.1 hrun
    cases h₁
    change Operation.changeGroup env id changes s = .ok g _ at hg
    unfold Operation.changeGroup at hg
    cases hf : Operation.groupFault changes with
    | some e =>
      rw [hf] at hg
      cases hg
    | none =>
      rw [hf] at hg
      exact enrolled_updateGroup h hg
  | deleteGroup id =>
    obtain ⟨_, s₁, hd, h₁⟩ := bind_eq_ok.1 hrun
    cases h₁
    obtain ⟨-, rfl⟩ := (Groups.yields_delete (F := fun _ => True) fun _ => trivial).ok hd
    apply h.filtered
    intro m hm g hg
    rwa [hg]
  | addMembers id contacts =>
    obtain ⟨n, s₁, ha, h₁⟩ := bind_eq_ok.1 hrun
    cases h₁
    obtain ⟨⟨g, hg⟩, -, hall, rfl⟩ := (Groups.yields_addMembers (F := fun _ => True) contacts
      (fun _ => trivial) fun _ _ => trivial).ok ha
    apply h.extended (Tables.mem_group_ids hg) ((nodup_distinct contacts).filter _)
    · exact fun c hc => (Groups.mem_missing.1 hc).2
    · exact fun c hc => Tables.contact?_isSome_iff.1 (hall c hc)
  | removeMembers id contacts =>
    obtain ⟨n, s₁, hr, h₁⟩ := bind_eq_ok.1 hrun
    cases h₁
    obtain ⟨-, -, rfl⟩ := (Groups.yields_removeMembers (F := fun _ => True) contacts
      fun _ => trivial).ok hr
    have hf := h.filtered (!Groups.leaves id contacts ·) (fun _ => true) (fun _ _ _ _ => rfl)
      (s.tried + 1)
    rwa [List.filter_true] at hf
  | _ => cases hop

theorem enrolled_next (hn : Numbered s) (h : Enrolled s) (x : Step) : Enrolled (s.next x) := by
  have hi := (evolves_next hn x).issued_le
  obtain ht | ⟨a, s₁, hrun, hnext⟩ := next_tables s x
  · exact h.tables ht hi
  · have hs₁ : Enrolled s₁ := by
      cases hop : x.operation.regroups with
      | true => exact enrolled_regroups h hop hrun
      | false =>
        have hg : Grown s (after (x.operation.run x.env) s) := grown_run x.operation hop s
        rw [after, hrun] at hg
        exact h.grown hg
    exact hnext ▸ hs₁.tables rfl (Issued.le_refl _)

theorem enrolled_run (hn : Numbered s) (h : Enrolled s) (steps : List Step) :
    Enrolled (s.run steps) := by
  induction steps generalizing s with
  | nil => exact h
  | cons x rest ih => exact ih (numbered_evolves (evolves_next hn x) hn) (enrolled_next hn h x)

/-! ### Operations on groups -/

/-- In any store that operations have written, groups are sets of contacts. -/
theorem Enrolled.setAlgebra (h : Enrolled s) (env : Conditions) : SetAlgebra env s where
  pairs := h.pairs
  created r := by
    apply Yields.ends
    apply (Groups.yields_create _ _ _ fun run hr => ⟨hr, run, rfl⟩).answer
    rintro g _ ⟨-, rfl, rfl⟩
    have hfresh := h.fresh
    refine ⟨_, rfl, ?_, ?_, rfl⟩
    · apply Tables.group?_none.2
      intro g hg hid
      exact hfresh (List.mem_map.2 ⟨g, hg, hid⟩)
    · -- a membership in it would be one in a group that was there before
      refine List.toFinset_eq_empty_iff _ |>.2 (List.eq_nil_iff_forall_not_mem.2 fun c hc => ?_)
      obtain ⟨m, hm, -, hg⟩ := Tables.mem_memberIds.1 hc
      have hgroup := h.groups m hm
      rw [hg] at hgroup
      exact hfresh hgroup
  added group contacts hcs := by
    apply Yields.ends
    refine (Groups.yields_addMembers contacts (fun hg => ⟨hg, rfl⟩) ?_).answer ?_
    · rintro - ⟨c, hc, hnone⟩
      have := hcs c (Groups.mem_missing.1 hc).1
      rw [hnone] at this
      cases this
    · rintro n _ ⟨⟨g, hg⟩, rfl, -, rfl⟩
      exact ⟨Option.isSome_of_mem hg, by rw [card_toFinset], reseated_added contacts rfl⟩
  removed group contacts := by
    apply Yields.ends
    apply (Groups.yields_removeMembers contacts fun hg => ⟨hg, rfl⟩).answer
    rintro n _ ⟨⟨g, hg⟩, rfl, rfl⟩
    exact ⟨Option.isSome_of_mem hg, by rw [h.card_leaving], reseated_removed contacts rfl⟩
  deleted group := by
    apply Yields.ends
    apply (Groups.yields_delete fun hg => ⟨hg, rfl⟩).bind
    rintro _ _ ⟨⟨g, hg⟩, rfl⟩
    exact yields_pure ⟨Option.isSome_of_mem hg, rfl, rfl⟩
  counted group := by
    apply Yields.ends
    apply (Groups.yields_get fun hg => ⟨hg, rfl⟩).bind
    rintro g s ⟨hg, rfl⟩
    apply yields_tables.bind
    rintro t s ⟨rfl, rfl⟩
    obtain ⟨-, rfl⟩ := Tables.mem_of_group? hg
    rw [h.memberCount]
    exact yields_pure ⟨rfl, g, hg, rfl⟩
  listed := by
    apply Yields.ends
    apply Groups.yields_all.bind
    rintro gs s ⟨rfl, rfl⟩
    apply yields_tables.bind
    rintro t s ⟨rfl, rfl⟩
    have hcounts : (fun g : Group => (g, s.tables.memberCount g.id)) =
        fun g => (g, (s.tables.memberSet g.id).card) := by
      funext g
      rw [h.memberCount]
    rw [hcounts]
    apply yields_pure
    exact ⟨rfl, _, sortList_perm _ _, rfl⟩

/-- After every run, groups are sets of contacts. -/
theorem members_form_sets (steps : List Step) (env : Conditions) :
    SetAlgebra env (Store.run {} steps) :=
  (enrolled_run numbered_empty enrolled_empty steps).setAlgebra env

end AddressBook
