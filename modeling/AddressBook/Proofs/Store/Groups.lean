import Mathlib.Data.Finset.Dedup
import AddressBook.Proofs.Sequence
import AddressBook.Proofs.Store.Outcomes
import AddressBook.Store.Groups

/-! What the actions on groups do, and why they fail. -/
namespace AddressBook

open AddressBook.Action

/-- A group with new values for the properties that are given. -/
def Group.changed (g : Group) (name : Option Text) (description : Option (Option Text))
    (color : Option Text) : Group :=
  { g with
    name := name.getD g.name
    description := description.getD g.description
    color := color.getD g.color }

/-- The texts of a group. -/
def Group.texts (g : Group) : List (Option Text) := [g.name, g.description, g.color]

/-- The set of the members of a group. -/
def Tables.memberSet (t : Tables) (group : Uuid) : Finset Uuid := (t.memberIds group).toFinset

theorem Tables.mem_memberIds {t : Tables} {group c : Uuid} :
    c ∈ t.memberIds group ↔ ∃ m ∈ t.members, m.contact = c ∧ m.group = group := by
  simp [memberIds, and_assoc, and_comm]

theorem Tables.group?_none {t : Tables} {id : Uuid} :
    t.group? id = none ↔ ∀ g ∈ t.groups, g.id ≠ id := by
  simp [group?]

theorem Tables.mem_of_group? {t : Tables} {id : Uuid} {g : Group} (h : t.group? id = some g) :
    g ∈ t.groups ∧ g.id = id := by
  refine ⟨List.mem_of_find?_eq_some h, ?_⟩
  simpa using List.find?_some h

namespace Groups

variable {env : Conditions} {s s' : Store} {F : Failure → Prop} {id group : Uuid}

/-- The row of a new group. -/
def newRow (env : Conditions) (s : Store) (name : Text) (description : Option Text)
    (color : Text) : Group :=
  ⟨.numbered 0xb0 (s.issued.groups + 1), name, description, color, env.now, env.now⟩

/-- Those contacts that have yet to become members, each once. -/
def missing (t : Tables) (group : Uuid) (contacts : List Uuid) : List Uuid :=
  (distinct contacts).filter (!(t.memberIds group).contains ·)

/-- The membership that a contact takes up now. -/
def newMember (env : Conditions) (group contact : Uuid) : Membership :=
  ⟨contact, group, env.now, env.now⟩

theorem mem_missing {t : Tables} {contacts : List Uuid} {c : Uuid} :
    c ∈ missing t group contacts ↔ c ∈ contacts ∧ c ∉ t.memberIds group := by
  simp [missing, mem_distinct]

theorem yields_get (h : s.tables.group? id = none → F (.noGroup id)) :
    Yields env (get id) s F fun g s' => s.tables.group? id = some g ∧ s' = s := by
  apply yields_tables.bind
  rintro t s₁ ⟨rfl, rfl⟩
  cases hg : s₁.tables.group? id with
  | none => exact yields_throw (h hg)
  | some g => exact yields_pure ⟨rfl, rfl⟩

theorem yields_all : Yields env all s F fun gs s' =>
    gs = sortList (fun a b => Text.precedes a.name b.name) s.tables.groups ∧ s' = s := by
  apply yields_tables.bind
  rintro t s₁ ⟨rfl, rfl⟩
  exact yields_pure ⟨rfl, rfl⟩

theorem yields_create (name : Text) (description : Option Text) (color : Text)
    (h : ∀ run, ¬ env.Fits [name, description, color] → F (.unencodable run)) :
    Yields env (create env name description color) s F fun g s' =>
      env.Fits [name, description, color] ∧ g = newRow env s name description color ∧
        s' = { s with
          tables := { s.tables with groups := s.tables.groups ++ [g] }
          issued := { s.issued with groups := s.issued.groups + 1 }
          tried := s.tried + 1 } := by
  apply (yields_attempt _).bind
  rintro _ _ rfl
  refine Yields.bind (Q := fun n s' => n = _ ∧ s' = _) ⟨rfl, rfl⟩ ?_
  rintro _ _ ⟨rfl, rfl⟩
  apply (yields_bindTexts _ h).bind
  rintro _ _ ⟨hfits, rfl⟩
  apply (yields_change _).bind
  rintro _ _ rfl
  exact yields_pure ⟨hfits, rfl, rfl⟩

theorem yields_update (name : Option Text) (description : Option (Option Text))
    (color : Option Text) (hget : s.tables.group? id = none → F (.noGroup id))
    (htexts : ∀ g run, s.tables.group? id = some g → g.changed name description color ≠ g →
      ¬ env.Fits (g.changed name description color).texts → F (.unencodable run)) :
    Yields env (update env id name description color) s F fun g' s' =>
      ∃ g, s.tables.group? id = some g ∧
        (g.changed name description color = g ∧ g' = g ∧ s' = s ∨
          env.Fits (g.changed name description color).texts ∧
            g' = { g.changed name description color with updated := env.now } ∧
            s' = { s with tables := s.tables.setGroup g', tried := s.tried + 1 }) := by
  apply (yields_get hget).bind
  rintro g _ ⟨hg, rfl⟩
  by_cases hsame : g.changed name description color = g
  · show Yields env (if g.changed name description color = g then _ else _) _ _ _
    rw [if_pos hsame]
    exact yields_pure ⟨g, hg, .inl ⟨hsame, rfl, rfl⟩⟩
  · show Yields env (if g.changed name description color = g then _ else _) _ _ _
    rw [if_neg hsame]
    apply (yields_attempt _).bind
    rintro _ _ rfl
    apply (yields_bindTexts _ fun run hr => htexts g run hg hsame hr).bind
    rintro _ _ ⟨hfits, rfl⟩
    apply (yields_change _).bind
    rintro _ _ rfl
    exact yields_pure ⟨g, hg, .inr ⟨hfits, rfl, rfl⟩⟩

theorem yields_delete (hget : s.tables.group? id = none → F (.noGroup id)) :
    Yields env (delete env id) s F fun _ s' => (∃ g, s.tables.group? id = some g) ∧
      s' = { s with
        tables := { s.tables with
          members := s.tables.members.filter (·.group != id)
          groups := s.tables.groups.filter (·.id != id) }
        tried := s.tried + 2 } := by
  apply (yields_get hget).bind
  rintro g _ ⟨hg, rfl⟩
  apply (yields_attempt _).bind
  rintro _ _ rfl
  apply (yields_change _).bind
  rintro _ _ rfl
  apply (yields_attempt _).bind
  rintro _ _ rfl
  apply (yields_change _).mono
  rintro _ _ rfl
  exact ⟨⟨g, hg⟩, rfl⟩

theorem yields_addMember {c : Uuid} (hg : (s.tables.group? group).isSome)
    (hc : c ∉ s.tables.memberIds group) (h : s.tables.contact? c = none → F .integrity) :
    Yields env (addMember env group c) s F fun _ s' => (s.tables.contact? c).isSome ∧
      s' = { s with
        tables := { s.tables with members := s.tables.members ++ [newMember env group c] }
        tried := s.tried + 1 } := by
  apply (yields_attempt _).bind
  rintro _ _ rfl
  apply yields_tables.bind
  rintro _ _ ⟨rfl, rfl⟩
  have hfree : s.tables.members.any (fun m => m.contact == c && m.group == group) = false := by
    simpa [Tables.mem_memberIds] using hc
  simp only [admissible, hg, hfree, Bool.and_true, Bool.not_false]
  cases hf : s.tables.contact? c with
  | none => exact (yields_throw (Q := fun _ _ => False) (h hf)).bind fun _ _ hx => hx.elim
  | some x =>
    rw [if_neg (by simp)]
    exact (yields_change _).mono fun _ _ hs => ⟨rfl, hs⟩

theorem yields_addEach {cs : List Uuid} (hg : (s.tables.group? group).isSome) (hn : cs.Nodup)
    (hc : ∀ c ∈ cs, c ∉ s.tables.memberIds group)
    (h : ∀ c ∈ cs, s.tables.contact? c = none → F .integrity) :
    Yields env (addEach env group cs) s F fun _ s' =>
      (∀ c ∈ cs, (s.tables.contact? c).isSome) ∧ s' = { s with
        tables := { s.tables with
          members := s.tables.members ++ cs.map (newMember env group) }
        tried := s.tried + cs.length } := by
  induction cs generalizing s with
  | nil => exact yields_pure ⟨by simp, by simp⟩
  | cons c rest ih =>
    obtain ⟨hrest, hn⟩ := List.nodup_cons.1 hn
    apply (yields_addMember hg (hc c (List.mem_cons_self ..)) (h c (List.mem_cons_self ..))).bind
    rintro _ _ ⟨hsome, rfl⟩
    refine Yields.mono (ih hg hn ?_ fun x hx => h x (List.mem_cons_of_mem _ hx)) ?_
    · intro x hx hmem
      obtain ⟨m, hm, hmx⟩ := Tables.mem_memberIds.1 hmem
      rcases List.mem_append.1 hm with hm | hm
      · exact hc x (List.mem_cons_of_mem _ hx) (Tables.mem_memberIds.2 ⟨m, hm, hmx⟩)
      · rw [List.mem_singleton] at hm
        subst hm
        obtain rfl : c = x := hmx.1
        exact hrest hx
    · rintro _ _ ⟨hall, rfl⟩
      refine ⟨List.forall_mem_cons.2 ⟨hsome, hall⟩, ?_⟩
      simp only [List.append_assoc, List.map_cons, List.singleton_append, List.length_cons,
        Nat.add_assoc, Nat.add_comm 1]

theorem yields_addMembers (contacts : List Uuid)
    (hget : s.tables.group? group = none → F (.noGroup group))
    (h : (s.tables.group? group).isSome →
      (∃ c ∈ missing s.tables group contacts, s.tables.contact? c = none) → F .integrity) :
    Yields env (addMembers env group contacts) s F fun n s' =>
      (∃ g, s.tables.group? group = some g) ∧ n = (distinct contacts).length ∧
        (∀ c ∈ missing s.tables group contacts, (s.tables.contact? c).isSome) ∧
        s' = { s with
          tables := { s.tables with members := s.tables.members ++
            (missing s.tables group contacts).map (newMember env group) }
          tried := s.tried + (missing s.tables group contacts).length } := by
  apply (yields_get hget).bind
  rintro g _ ⟨hg, rfl⟩
  have hsome := Option.isSome_of_mem hg
  apply yields_tables.bind
  rintro _ _ ⟨rfl, rfl⟩
  apply (yields_addEach hsome ((nodup_distinct contacts).filter _)
    (fun c hc => (mem_missing.1 hc).2) fun c hc hx => h hsome ⟨c, hc, hx⟩).bind
  rintro _ _ ⟨hall, rfl⟩
  exact yields_pure ⟨⟨g, hg⟩, rfl, hall, rfl⟩

/-- Whether a membership is one of some contacts in a group. -/
def leaves (group : Uuid) (contacts : List Uuid) (m : Membership) : Bool :=
  m.group == group && contacts.contains m.contact

theorem yields_removeMembers (contacts : List Uuid)
    (hget : s.tables.group? group = none → F (.noGroup group)) :
    Yields env (removeMembers env group contacts) s F fun n s' =>
      (∃ g, s.tables.group? group = some g) ∧
        n = (s.tables.members.filter (leaves group contacts)).length ∧
        s' = { s with
          tables := { s.tables with
            members := s.tables.members.filter (!leaves group contacts ·) }
          tried := s.tried + 1 } := by
  apply (yields_get hget).bind
  rintro g _ ⟨hg, rfl⟩
  apply (yields_attempt _).bind
  rintro _ _ rfl
  apply yields_tables.bind
  rintro _ _ ⟨rfl, rfl⟩
  apply (yields_change _).bind
  rintro _ _ rfl
  exact yields_pure ⟨⟨g, hg⟩, rfl, rfl⟩

end Groups
end AddressBook
