import AddressBook.Proofs.History.Latest

/-!
The order of versions is the order of times, as long as the clock does not go back. Nothing in the
look-up of a latest snapshot sees to that: it goes by versions among those taken in time, and
depends on all that could write a snapshot before.
-/
namespace AddressBook

open AddressBook.Action AddressBook.History

/-- The times in a store are in order, and none of its contacts was updated after a certain
time. -/
structure Timed (s : Store) (now : Instant) : Prop where
  contact : ∀ c ∈ s.tables.contacts, c.created ≤ c.updated ∧ c.updated ≤ now
  snapshot : ∀ c ∈ s.tables.contacts, ∀ p ∈ s.tables.snapshots, p.contact = c.id →
    c.created ≤ p.taken ∧ p.taken ≤ c.updated
  ordered : ∀ p ∈ s.tables.snapshots, ∀ q ∈ s.tables.snapshots, p.contact = q.contact →
    p.version ≤ q.version → p.taken ≤ q.taken

/-- What looking up the latest snapshot by a certain time comes to: the snapshot of the highest
version among those taken by then, which is also the last of them to be taken. -/
def Finds (t : Tables) (time : Instant) (id : Uuid) : Option Snapshot → Prop
  | none => ∀ q ∈ t.snapshots, q.contact = id → time < q.taken
  | some p => IsLatest t time id p ∧
    ∀ q ∈ t.snapshots, q.contact = id → q.taken ≤ time → q.taken ≤ p.taken

/-- The history of a contact in the order of time. -/
structure Chronicled (s : Store) (c : Contact) : Prop where
  lived : c.created ≤ c.updated
  between : ∀ p ∈ s.tables.snapshots, p.contact = c.id → c.created ≤ p.taken ∧ p.taken ≤ c.updated
  ordered : ∀ p ∈ s.tables.snapshots, ∀ q ∈ s.tables.snapshots, p.contact = c.id →
    q.contact = c.id → p.version ≤ q.version → p.taken ≤ q.taken
  /-- The look-up answers for every time that the store can hold. -/
  answers : ∀ time, (∃ found s', Snapshots.latest? c.id time s = .ok found s') ↔ time.isDated
  finds : ∀ time found s', Snapshots.latest? c.id time s = .ok found s' →
    s' = s ∧ Finds s.tables time c.id found
  /-- A later time never finds a lower version. -/
  rising : ∀ time time' p found s₁ s₂, time ≤ time' →
    Snapshots.latest? c.id time s = .ok (some p) s₁ →
    Snapshots.latest? c.id time' s = .ok found s₂ → ∃ q, found = some q ∧ p.version ≤ q.version

variable {env : Conditions} {s s' : Store} {c : Contact} {now now' time time' : Instant}
  {steps : List Step} {p : Snapshot}

/-! ### Times stay in order -/

theorem timed_empty (now : Instant) : Timed {} now := ⟨by simp, by simp, by simp⟩

theorem Timed.mono (h : Timed s now) (hle : now ≤ now') : Timed s now' :=
  ⟨fun c hc => ⟨(h.contact c hc).1, Int.le_trans (h.contact c hc).2 hle⟩, h.snapshot, h.ordered⟩

theorem Timed.taken_le (h : Timed s now) (hc : c ∈ s.tables.contacts)
    (hp : p ∈ s.tables.snapshots) (hpc : p.contact = c.id) : p.taken ≤ now :=
  Int.le_trans (h.snapshot c hc p hp hpc).2 (h.contact c hc).2

theorem timed_of_same (hc : s'.tables.contacts = s.tables.contacts)
    (hs : s'.tables.snapshots = s.tables.snapshots) (h : Timed s now) : Timed s' now := by
  obtain ⟨hcontact, hsnapshot, hordered⟩ := h
  rw [← hc] at hcontact hsnapshot
  rw [← hs] at hsnapshot hordered
  exact ⟨hcontact, hsnapshot, hordered⟩

/-- A new contact has no snapshots yet. -/
theorem timed_created {fields : Fields} {upload : Option Uuid}
    (hc : s'.tables.contacts = s.tables.contacts ++ [Contacts.newRow s fields upload env.now])
    (hs : s'.tables.snapshots = s.tables.snapshots) (hf : Faithful s) (h : Timed s env.now) :
    Timed s' env.now := by
  refine ⟨?_, ?_, hs ▸ h.ordered⟩
  · intro c hmem
    rw [hc, List.mem_append, List.mem_singleton] at hmem
    rcases hmem with hmem | rfl
    · exact h.contact c hmem
    · exact ⟨Int.le_refl _, Int.le_refl _⟩
  · intro c hmem p hp hpc
    rw [hs] at hp
    rw [hc, List.mem_append, List.mem_singleton] at hmem
    rcases hmem with hmem | rfl
    · exact h.snapshot c hmem p hp hpc
    · obtain ⟨r, hr, -⟩ := hf.revision_of_snapshot hp
      rw [hpc, hf.numbered.revisions_newRow] at hr
      cases hr

/-- A contact that is written is updated now, and what is kept of it is taken now and has a higher
version than all snapshots before. -/
theorem timed_written {c' : Contact} {kept : List Snapshot} (hmem : c ∈ s.tables.contacts)
    (hf : Faithful s) (h : Timed s now)
    (hc : s'.tables.contacts = (s.tables.setContact c').contacts)
    (hs : s'.tables.snapshots = s.tables.snapshots ++ kept) (hid : c'.id = c.id)
    (hcreated : c'.created = c.created) (hupdated : c'.updated = now)
    (hkept : ∀ p ∈ kept, p.contact = c.id ∧ p.version = c.version ∧ p.taken = now) :
    Timed s' now := by
  obtain ⟨hlived, hpresent⟩ := h.contact c hmem
  have hborn : c.created ≤ now := Int.le_trans hlived hpresent
  refine ⟨?_, ?_, ?_⟩
  · intro x hx
    rw [hc] at hx
    obtain rfl | ⟨hx, -⟩ := Tables.of_mem_setContact hx
    · rw [hcreated, hupdated]
      exact ⟨hborn, Int.le_refl _⟩
    · exact h.contact x hx
  · intro x hx p hp hpx
    rw [hc] at hx
    rw [hs, List.mem_append] at hp
    obtain rfl | ⟨hx, hne⟩ := Tables.of_mem_setContact hx
    · rw [hcreated, hupdated]
      rcases hp with hp | hp
      · have hpc := hpx.trans hid
        exact ⟨(h.snapshot c hmem p hp hpc).1, h.taken_le hmem hp hpc⟩
      · rw [(hkept p hp).2.2]
        exact ⟨hborn, Int.le_refl _⟩
    · rcases hp with hp | hp
      · exact h.snapshot x hx p hp hpx
      · exact absurd (hpx.symm.trans ((hkept p hp).1.trans hid.symm)) hne
  · intro p hp q hq hpq hv
    rw [hs, List.mem_append] at hp hq
    rcases hq with hq | hq
    · rcases hp with hp | hp
      · exact h.ordered p hp q hq hpq hv
      · obtain ⟨hpc, hpv, -⟩ := hkept p hp
        have hlt := (hf.version_lt hmem hq (hpq.symm.trans hpc)).2
        rw [hpv] at hv
        exact absurd hlt (Int.not_lt.2 hv)
    · obtain ⟨hqc, -, hqt⟩ := hkept q hq
      rw [hqt]
      rcases hp with hp | hp
      · exact h.taken_le hmem hp (hpq.trans hqc)
      · exact Int.le_of_eq (hkept p hp).2.2

theorem timed_move (hm : Move env s s') (hf : Faithful s) (h : Timed s env.now) :
    Timed s' env.now := by
  cases hm with
  | apart ha => exact timed_of_same ha.contacts ha.snapshots h
  | created fields upload fits contacts snapshots journal issued fresh =>
    exact timed_created contacts snapshots hf h
  | revised c changes kept mem taken recorded =>
    have hcontacts : s'.tables.contacts =
        (s.tables.setContact (c.revised changes env.now)).contacts := by rw [recorded.tables]
    have hsnapshots : s'.tables.snapshots = s.tables.snapshots ++ kept.toList := by
      rw [recorded.tables]
    refine timed_written mem hf h hcontacts hsnapshots rfl rfl rfl ?_
    intro p hp
    rw [recorded.snapshot p (Option.mem_toList.1 hp)]
    exact ⟨rfl, rfl, rfl⟩
  | switched c active mem contacts snapshots journal issued =>
    have hsnapshots : s'.tables.snapshots = s.tables.snapshots ++ [] := by
      rw [snapshots, List.append_nil]
    exact timed_written mem hf h contacts hsnapshots rfl rfl rfl fun _ hp => nomatch hp

theorem timed_evolves (he : Evolves env s s') (hf : Faithful s) (h : Timed s env.now) :
    Timed s' env.now := by
  have hboth : Faithful s' ∧ Timed s' env.now := by
    induction he with
    | refl => exact ⟨hf, h⟩
    | tail _ hm ih => exact ⟨faithful_move hm ih.1, timed_move hm ih.1 ih.2⟩
  exact hboth.2

/-- Under a clock that does not go back, times stay in order from step to step. -/
theorem timed_run (hclock : steps.Pairwise fun x y => x.env.now ≤ y.env.now)
    (hafter : ∀ x ∈ steps, now ≤ x.env.now) (hf : Faithful s) (h : Timed s now) :
    ∃ now', Timed (s.run steps) now' := by
  induction steps generalizing s now with
  | nil => exact ⟨now, h⟩
  | cons x rest ih =>
    obtain ⟨hx, hrest⟩ := List.pairwise_cons.1 hclock
    have hnext : Timed (s.next x) x.env.now :=
      timed_evolves (evolves_next hf.numbered x) hf (h.mono (hafter x (List.mem_cons_self ..)))
    have hfaithful : Faithful (s.run [x]) := faithful_run hf
    exact ih hrest hx hfaithful hnext

/-! ### Looking up -/

theorem Timed.finds (h : Timed s now) (time : Instant) (id : Uuid) :
    Finds s.tables time id ((s.tables.history id).find? (·.taken ≤ time)) := by
  cases hf : (s.tables.history id).find? (·.taken ≤ time) with
  | none => exact find?_history_eq_none.1 hf
  | some p =>
    have hp := isLatest_of_find? hf
    refine ⟨hp, ?_⟩
    intro q hq hqc hqt
    exact h.ordered q hq p hp.mem (hqc.trans hp.contact.symm) (hp.highest q hq hqc hqt)

theorem of_latest? {id : Uuid} {found : Option Snapshot}
    (h : Snapshots.latest? id time s = .ok found s') :
    time.isDated ∧ s' = s ∧ found = (s.tables.history id).find? (·.taken ≤ time) := by
  obtain ⟨_, s₁, hbind, -⟩ := bind_eq_ok.1 h
  have hd := ((bindInstant_checks time).of_ok hbind).1
  rw [latest?_run hd] at h
  cases h
  exact ⟨hd, rfl, rfl⟩

theorem find?_rising {t : Tables} {id : Uuid} (hle : time ≤ time')
    (h : (t.history id).find? (·.taken ≤ time) = some p) :
    ∃ q, (t.history id).find? (·.taken ≤ time') = some q ∧ p.version ≤ q.version := by
  have hp := isLatest_of_find? h
  have hpt : p.taken ≤ time' := Int.le_trans hp.taken hle
  cases hf : (t.history id).find? (·.taken ≤ time') with
  | none =>
    have := find?_history_eq_none.1 hf p hp.mem hp.contact
    exact absurd hpt (Int.not_le.2 this)
  | some q => exact ⟨q, rfl, (isLatest_of_find? hf).highest p hp.mem hp.contact hpt⟩

/-- In every run under a clock that does not go back, the order of a contact's versions is that of
their times, whatever is refused in it. -/
theorem chronicled_run (hclock : steps.Pairwise fun x y => x.env.now ≤ y.env.now)
    (hc : c ∈ (Store.run {} steps).tables.contacts) : Chronicled (Store.run {} steps) c := by
  obtain ⟨now, h⟩ : ∃ now, Timed (Store.run {} steps) now := by
    cases steps with
    | nil => exact ⟨0, timed_empty 0⟩
    | cons x rest =>
      have hafter := (List.pairwise_cons.1 hclock).1
      exact timed_run hclock (List.forall_mem_cons.2 ⟨Int.le_refl _, hafter⟩) faithful_empty
        (timed_empty x.env.now)
  refine ⟨(h.contact c hc).1, h.snapshot c hc, ?_, ?_, ?_, ?_⟩
  · intro p hp q hq hpc hqc hv
    exact h.ordered p hp q hq (hpc.trans hqc.symm) hv
  · intro time
    constructor
    · rintro ⟨found, s', hfound⟩
      exact (of_latest? hfound).1
    · intro hd
      exact ⟨_, _, latest?_run hd c.id _⟩
  · intro time found s' hfound
    obtain ⟨-, hs, rfl⟩ := of_latest? hfound
    exact ⟨hs, h.finds time c.id⟩
  · intro time time' p found s₁ s₂ hle hfirst hsecond
    obtain ⟨-, -, hp⟩ := of_latest? hfirst
    obtain ⟨-, -, rfl⟩ := of_latest? hsecond
    exact find?_rising hle hp.symm

/-- A contact whose first snapshot was refused still has its history in order. -/
theorem chronicled_refusedOnce : Chronicled (Store.run {} refusedOnce)
    ⟨.numbered 0xc0 1, { name := some ['c'] }, 3, true, none, 1, 3⟩ :=
  chronicled_run (by decide) (by decide)

end AddressBook
