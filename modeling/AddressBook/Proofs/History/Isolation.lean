import AddressBook.Proofs.History.Turns

/-!
What restoring all contacts to a date does to each row, whatever writes the store refuses. Exactly
those contacts change that are due and whose write is taken; all other rows are as they were, even
where a snapshot was already written before the write that failed.
-/
namespace AddressBook.History

open AddressBook.Action

/-- The keys of the store are unique: identifiers of contacts, and the versions of each contact's
snapshots. -/
structure Keyed (t : Tables) : Prop where
  contacts : (t.contacts.map (·.id)).Nodup
  snapshots : (t.snapshots.map fun p => (p.contact, p.version)).Nodup

/-- A contact is in use and existed by a certain time, and its latest snapshot by then has other
values. -/
structure Due (t : Tables) (time : Instant) (c : Contact) (p : Snapshot) : Prop where
  active : c.active
  created : c.created ≤ time
  latest : IsLatest t time c.id p
  differs : p.fields ≠ c.fields

/-- The store at a contact's turn, as far as this contact goes, when all contacts are restored. -/
def atTurn (s : Store) (time : Instant) (c : Contact) : Store :=
  turn time (existingAt s.tables time) s c

/-- The write of a contact with the values of a snapshot does not fail. -/
def Written (env : Conditions) (s : Store) (time : Instant) (c : Contact) (p : Snapshot) : Prop :=
  ChangeTaken env (atTurn s time c) c p.fields.toChanges

/-- What a contact had before is filed, unless the snapshot of it is refused. -/
structure Filed (env : Conditions) (time : Instant) (s s' : Store) (c : Contact)
    (kept : Option Snapshot) : Prop where
  filed : filed s'.tables c.id = filed s.tables c.id ++ kept.toList
  entry : ∀ p ∈ kept, p.version = c.version ∧ p.fields = c.fields ∧ p.taken = env.now
  kept : kept.isSome ↔ SnapshotTaken env (atTurn s time c) c

/-- What restoring all contacts to a time comes to, row by row. -/
structure Rolled (env : Conditions) (time : Instant) (s s' : Store) (n : Nat) : Prop where
  changed : ∀ c ∈ s.tables.contacts, ∀ p, Due s.tables time c p → Written env s time c p →
    c.restored p.fields env.now ∈ s'.tables.contacts ∧ ∃ kept, Filed env time s s' c kept
  unchanged : ∀ c ∈ s.tables.contacts,
    (∀ p, Due s.tables time c p → ¬ Written env s time c p) →
      c ∈ s'.tables.contacts ∧ filed s'.tables c.id = filed s.tables c.id
  strangers : ∀ id, id ∉ s.tables.contacts.map (·.id) → filed s'.tables id = filed s.tables id
  ids : s'.tables.contacts.map (·.id) = s.tables.contacts.map (·.id)
  elsewhere : s'.tables = { s.tables with
    contacts := s'.tables.contacts, snapshots := s'.tables.snapshots }
  counted : n = s.tables.contacts.countP fun c => c ∉ s'.tables.contacts

variable {env : Conditions} {time : Instant} {d : DateTime} {s s' : Store} {t : Tables}
  {c : Contact} {p : Snapshot} {cs : List Contact}

/-! ### Keys stay unique -/

/-- A snapshot that is added is of a higher version than all others of its contact. -/
theorem keyed_move (hm : Move env s s') (hf : Faithful s) (h : Keyed s.tables) :
    Keyed s'.tables := by
  refine ⟨(numbered_move hm hf.numbered).nodup, ?_⟩
  cases hm with
  | apart ha => exact ha.snapshots ▸ h.snapshots
  | created _ _ _ _ snapshots _ _ _ => exact snapshots ▸ h.snapshots
  | revised c changes kept mem taken recorded =>
    rw [recorded.tables]
    cases kept with
    | none => simpa using h.snapshots
    | some p =>
      obtain rfl := recorded.snapshot p rfl
      rw [List.map_append]
      refine List.nodup_append.2 ⟨h.snapshots, List.nodup_singleton _, ?_⟩
      intro a ha b hb hab
      obtain ⟨q, hq, rfl⟩ := List.mem_map.1 ha
      obtain rfl := List.mem_singleton.1 hb
      obtain ⟨hcontact, hversion⟩ := Prod.mk.inj hab
      have hlt := (hf.version_lt mem hq hcontact).2
      exact absurd hversion (Int.ne_of_lt hlt)
  | switched _ _ _ _ snapshots _ _ => exact snapshots ▸ h.snapshots

/-- Every run from the empty store leads to one with unique keys. -/
theorem keyed_run (steps : List Step) : Keyed (Store.run {} steps).tables := by
  have hrun := relation_run (P := fun _ => True)
    (R := fun a b => Faithful a → Keyed a.tables → Faithful b ∧ Keyed b.tables)
    (fun _ hf hk => ⟨hf, hk⟩) ?_ ?_ numbered_empty (fun x (_ : x ∈ steps) => trivial)
  · exact (hrun faithful_empty ⟨List.nodup_nil, List.nodup_nil⟩).2
  · intro a b c hab hbc hf hk
    obtain ⟨hf, hk⟩ := hab hf hk
    exact hbc hf hk
  · intro env a b _ _ hm hf hk
    exact ⟨faithful_move hm hf, keyed_move hm hf hk⟩

/-! ### The contacts that change -/

theorem Keyed.versions_nodup (h : Keyed t) (id : Uuid) :
    ((filed t id).map (·.version)).Nodup := by
  have hpairs : (filed t id).Pairwise fun p q => (p.contact, p.version) ≠ (q.contact, q.version) :=
    (List.pairwise_map.1 h.snapshots).sublist List.filter_sublist
  apply List.pairwise_map.2
  refine hpairs.imp_of_mem ?_
  intro p q hp hq hpq hv
  exact hpq (Prod.ext ((mem_filed.1 hp).2.trans (mem_filed.1 hq).2.symm) hv)

theorem Keyed.latestFields_eq (h : Keyed t) (hp : IsLatest t time c.id p) :
    latestFields t time c = p.fields := by
  unfold latestFields
  rw [hp.find?_eq (h.versions_nodup c.id)]

theorem Differs.exists_latest (h : Differs t time c) :
    ∃ p, IsLatest t time c.id p ∧ latestFields t time c = p.fields := by
  unfold Differs latestFields at h
  unfold latestFields
  cases hf : (t.history c.id).find? (·.taken ≤ time) with
  | none =>
    rw [hf] at h
    exact absurd rfl h
  | some p => exact ⟨p, isLatest_of_find? hf, rfl⟩

/-- A contact gets other values at its turn exactly if it is due and its write does not fail. -/
theorem moves_iff_due (h : Keyed s.tables) (hc : c ∈ existingAt s.tables time) :
    Moves env time (existingAt s.tables time) s c ↔
      ∃ p, Due s.tables time c p ∧ Written env s time c p := by
  obtain ⟨-, hactive, hcreated⟩ := mem_existingAt.1 hc
  constructor
  · rintro ⟨hdiffers, htaken⟩
    obtain ⟨p, hp, hfields⟩ := hdiffers.exists_latest
    rw [hfields] at htaken
    exact ⟨p, ⟨hactive, hcreated, hp, hfields ▸ hdiffers⟩, htaken⟩
  · rintro ⟨p, hdue, hwritten⟩
    have hfields := h.latestFields_eq hdue.latest
    refine ⟨?_, ?_⟩
    · rw [Differs, hfields]
      exact hdue.differs
    · rw [hfields]
      exact hwritten

theorem Due.mem_existingAt (h : Due t time c p) (hc : c ∈ t.contacts) : c ∈ existingAt t time :=
  History.mem_existingAt.2 ⟨hc, h.active, h.created⟩

/-! ### Row by row -/

theorem Looped.mem_moved (h : Looped env time cs s s') (hc : c ∈ s.tables.contacts) :
    moved env time cs s c ∈ s'.tables.contacts := by
  rw [h.contacts]
  exact List.mem_map_of_mem hc

/-- A contact whose row is not found any more is one that got other values. -/
theorem Looped.not_mem_iff (h : Looped env time cs s s')
    (hn : (s.tables.contacts.map (·.id)).Nodup) (hc : c ∈ s.tables.contacts) :
    c ∉ s'.tables.contacts ↔ c ∈ cs ∧ Moves env time cs s c := by
  have hmem := h.mem_moved hc
  constructor
  · intro hnot
    by_cases hmoves : c ∈ cs ∧ Moves env time cs s c
    · exact hmoves
    · rw [moved, if_neg hmoves] at hmem
      exact absurd hmem hnot
  · intro hmoves hstays
    have heq : moved env time cs s c = c :=
      Tables.eq_of_id (h.ids ▸ hn) hmem hstays moved_id
    rw [moved, if_pos hmoves] at heq
    have hversion : c.version + 1 = c.version := congrArg Contact.version heq
    omega

theorem Looped.counted (h : Looped env time (existingAt s.tables time) s s')
    (hn : (s.tables.contacts.map (·.id)).Nodup) :
    (existingAt s.tables time).countP (fun c => Moves env time (existingAt s.tables time) s c) =
      s.tables.contacts.countP fun c => c ∉ s'.tables.contacts := by
  have hperm : (existingAt s.tables time).Perm
      (s.tables.contacts.filter fun c => c.active && c.created ≤ time) := sortList_perm _ _
  rw [hperm.countP_eq, List.countP_filter]
  apply List.countP_congr
  intro c hc
  rw [decide_eq_true_eq, h.not_mem_iff hn hc, mem_existingAt]
  simp only [Bool.and_eq_true, decide_eq_true_eq, hc, true_and]
  exact and_comm

theorem Looped.rolled (h : Looped env time (existingAt s.tables time) s s')
    (hk : Keyed s.tables) :
    Rolled env time s s' ((existingAt s.tables time).countP fun c =>
      Moves env time (existingAt s.tables time) s c) := by
  refine ⟨?_, ?_, ?_, h.ids, h.elsewhere, h.counted hk.contacts⟩
  · intro c hc p hdue hwritten
    have hexists := hdue.mem_existingAt hc
    have hmoves := (moves_iff_due hk hexists).2 ⟨p, hdue, hwritten⟩
    constructor
    · have hmem := h.mem_moved hc
      rw [moved, if_pos ⟨hexists, hmoves⟩, hk.latestFields_eq hdue.latest] at hmem
      exact hmem
    · obtain ⟨kept, hkept⟩ := h.added c hexists
      exact ⟨kept, hkept.filed, hkept.entry, hkept.kept.trans (and_iff_right hmoves)⟩
  · intro c hc hnot
    have hstays : ¬ (c ∈ existingAt s.tables time ∧
        Moves env time (existingAt s.tables time) s c) := by
      rintro ⟨hexists, hmoves⟩
      obtain ⟨p, hdue, hwritten⟩ := (moves_iff_due hk hexists).1 hmoves
      exact hnot p hdue hwritten
    constructor
    · have hmem := h.mem_moved hc
      rwa [moved, if_neg hstays] at hmem
    · by_cases hexists : c ∈ existingAt s.tables time
      · obtain ⟨kept, hkept⟩ := h.added c hexists
        have hnone : kept = none := by
          rw [← Option.not_isSome_iff_eq_none, hkept.kept]
          exact fun hk => hstays ⟨hexists, hk.1⟩
        rw [hkept.filed, hnone]
        exact List.append_nil _
      · refine h.others c.id fun hid => ?_
        obtain ⟨x, hx, hxc⟩ := List.mem_map.1 hid
        have hxmem := (mem_existingAt.1 hx).1
        exact hexists (Tables.eq_of_id hk.contacts hxmem hc hxc ▸ hx)
  · intro id hid
    refine h.others id fun hmem => hid ?_
    obtain ⟨x, hx, rfl⟩ := List.mem_map.1 hmem
    exact List.mem_map_of_mem (mem_existingAt.1 hx).1

/-- Restoring all contacts to a date changes exactly those that are due and whose write does not
fail. The date has to lie in the years 1 to 9999; without an offset it is taken in UTC. -/
theorem restoreAll_isolated (env : Conditions) (hk : Keyed s.tables) (hd : d.instant.isDated) :
    (∃ n s', restoreAll env d.instant s = .ok n s' ∧ Rolled env d.instant s s' n) ∧
    (d.offset = none →
      restoreAll env d.instant s = restoreAll env (DateTime.instant ⟨d.reading, some 0⟩) s) := by
  constructor
  · obtain ⟨s', hrun, hs'⟩ := restoreAll_looped env hd hk.contacts
    exact ⟨_, s', hrun, hs'.rolled hk⟩
  · intro hnone
    have hutc : d.instant = DateTime.instant ⟨d.reading, some 0⟩ := by
      unfold DateTime.instant
      rw [hnone]
      rfl
    rw [hutc]

/-- Two renamed contacts. -/
def renamedTwice : Store where
  tables := {
    contacts := [⟨.numbered 0xc0 1, { name := some ['b'] }, 2, true, none, 1, 2⟩,
      ⟨.numbered 0xc0 2, { name := some ['d'] }, 2, true, none, 1, 2⟩]
    snapshots := [⟨.numbered 0xe0 1, .numbered 0xc0 1, 1, { name := some ['a'] }, 2⟩,
      ⟨.numbered 0xe0 2, .numbered 0xc0 2, 1, { name := some ['c'] }, 2⟩] }

/-- Conditions under which the first contact cannot be written. -/
def firstRefused : Conditions :=
  { Conditions.fair 4 with
    refusal := fun _ w => if w = .updateContact (.numbered 0xc0 1) then some [] else none }

/-- The second contact gets back its first name, and nothing becomes of the first one, though a
snapshot of it had been written. -/
theorem restoreAll_firstRefused : ∃ s', restoreAll firstRefused 3 renamedTwice = .ok 1 s' ∧
    (⟨.numbered 0xc0 1, { name := some ['b'] }, 2, true, none, 1, 2⟩ : Contact) ∈
      s'.tables.contacts ∧
    filed s'.tables (.numbered 0xc0 1) = filed renamedTwice.tables (.numbered 0xc0 1) ∧
    (⟨.numbered 0xc0 2, { name := some ['c'] }, 3, true, none, 1, 4⟩ : Contact) ∈
      s'.tables.contacts := by
  have hk : Keyed renamedTwice.tables := ⟨by decide, by decide⟩
  have hd : (DateTime.instant ⟨3, none⟩).isDated := by decide
  obtain ⟨⟨n, s', hrun, hrolled⟩, -⟩ := restoreAll_isolated firstRefused hk hd
  obtain ⟨hstays, hfiled⟩ := hrolled.unchanged
    ⟨.numbered 0xc0 1, { name := some ['b'] }, 2, true, none, 1, 2⟩ (by decide) (by
      rintro p - ⟨hnot, -⟩
      exact absurd hnot (by decide))
  obtain ⟨hchanged, -⟩ := hrolled.changed
    ⟨.numbered 0xc0 2, { name := some ['d'] }, 2, true, none, 1, 2⟩ (by decide)
    ⟨.numbered 0xe0 2, .numbered 0xc0 2, 1, { name := some ['c'] }, 2⟩
    ⟨rfl, by decide, ⟨by decide, rfl, by decide, by decide⟩, by decide⟩
    ⟨by decide, by decide, by decide⟩
  have hgone : (⟨.numbered 0xc0 2, { name := some ['d'] }, 2, true, none, 1, 2⟩ : Contact) ∉
      s'.tables.contacts := by
    intro hmem
    have hsame := Tables.eq_of_id (hrolled.ids ▸ hk.contacts) hmem hchanged rfl
    exact absurd hsame (by decide)
  have hone : n = 1 := by
    rw [hrolled.counted]
    simp [renamedTwice, hstays, hgone]
  rw [hone] at hrun
  exact ⟨s', hrun, hstays, hfiled, hchanged⟩

/-- To a date whose instant in UTC lies beyond the year 9999, no contact is restored, due or not. -/
theorem restoreAll_undated : ¬ ∀ (env : Conditions) (d : DateTime) (steps : List Step)
    (c : Contact) (p : Snapshot), c ∈ (Store.run {} steps).tables.contacts →
    Due (Store.run {} steps).tables d.instant c p →
    Written env (Store.run {} steps) d.instant c p →
    ∃ n s', restoreAll env d.instant (Store.run {} steps) = .ok n s' ∧
      c.restored p.fields env.now ∈ s'.tables.contacts := by
  intro h
  obtain ⟨n, s', hrun, -⟩ := h (.fair 4) ⟨Instant.ofYear 10000 - 1, some (-1)⟩ renamedOnce
    ⟨.numbered 0xc0 1, { name := some ['b'] }, 2, true, none, 1, 2⟩
    ⟨.numbered 0xe0 1, .numbered 0xc0 1, 1, { name := some ['a'] }, 2⟩ (by decide)
    ⟨rfl, by decide, ⟨by decide, rfl, by decide, by decide⟩, by decide⟩
    ⟨by decide, by decide, by decide⟩
  have hlate : ¬ Instant.isDated (DateTime.instant ⟨Instant.ofYear 10000 - 1, some (-1)⟩) := by
    decide
  unfold restoreAll at hrun
  obtain ⟨_, _, hbind, -⟩ := bind_eq_ok.1 hrun
  exact hlate ((bindInstant_checks _).of_ok hbind).1

end AddressBook.History
