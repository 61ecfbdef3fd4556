import AddressBook.Proofs.History.Lineage
import AddressBook.Proofs.Sequence

/-!
The snapshots are the changes that could keep one, in their order: each holds the values that its
change replaced, under the version that it ended.
-/
namespace AddressBook

/-- What a snapshot tells. -/
def Snapshot.entry (p : Snapshot) : Uuid × Int × Fields × Instant :=
  (p.contact, p.version, p.fields, p.taken)

/-- What the snapshot before a change tells. -/
def Revision.entry (r : Revision) : Uuid × Int × Fields × Instant :=
  (r.contact, r.version, r.before, r.time)

/-- What a store that operations have written comes to. -/
structure Faithful (s : Store) : Prop where
  numbered : Numbered s
  traced : ∀ c ∈ s.tables.contacts, Traced s c
  filed : s.tables.snapshots.map (·.entry) =
    ((s.journal.filter (·.kept)).map (·.entry)).reverse

variable {env : Conditions} {s s' : Store} {c : Contact} {p q : Snapshot} {r : Revision}
  {steps : List Step}

theorem faithful_empty : Faithful {} := ⟨numbered_empty, by simp, rfl⟩

theorem filed_recorded {changes : Changes} {kept : Option Snapshot}
    (hr : History.Recorded env c changes s s' kept)
    (h : s.tables.snapshots.map (·.entry) = ((s.journal.filter (·.kept)).map (·.entry)).reverse) :
    s'.tables.snapshots.map (·.entry) =
      ((s'.journal.filter (·.kept)).map (·.entry)).reverse := by
  rw [hr.tables, hr.journal]
  cases kept with
  | none => simpa [Contact.revision] using h
  | some p =>
    obtain rfl := hr.snapshot p rfl
    simpa [Contact.revision, History.nextSnapshot, Snapshot.entry, Revision.entry] using h

theorem faithful_move (hm : Move env s s') (h : Faithful s) : Faithful s' := by
  refine ⟨numbered_move hm h.numbered, ?_, ?_⟩
  · intro c' hc'
    have hcont := continues_move (p := fun _ => True) trivial h.numbered hm
    obtain ⟨c, hc, hs⟩ | ⟨htraced, -⟩ := hcont.origin c' hc'
    · exact (h.traced c hc).successor hs
    · exact htraced
  · cases hm with
    | apart ha => rw [ha.snapshots, ha.journal, h.filed]
    | created _ _ _ _ snapshots journal _ _ => rw [snapshots, journal, h.filed]
    | revised c changes kept mem taken recorded => exact filed_recorded recorded h.filed
    | switched _ _ _ _ snapshots journal _ => rw [snapshots, journal, h.filed]

theorem faithful_run (h : Faithful s) : Faithful (s.run steps) :=
  relation_run (P := fun _ => True) (R := fun a b => Faithful a → Faithful b) (fun _ h => h)
    (fun _ _ _ h h' => h' ∘ h) (fun _ _ _ _ _ hm h => faithful_move hm h) h.numbered
    (fun _ _ => trivial) h

/-- A snapshot holds the values that a change replaced. -/
structure Snapshot.Keeps (p : Snapshot) (r : Revision) : Prop where
  kept : r.kept
  contact : p.contact = r.contact
  version : p.version = r.version
  fields : p.fields = r.before
  taken : p.taken = r.time

theorem keeps_of_entry (hk : r.kept) (he : r.entry = p.entry) : p.Keeps r := by
  simp only [Revision.entry, Snapshot.entry, Prod.mk.injEq] at he
  obtain ⟨hc, hv, hf, ht⟩ := he
  exact ⟨hk, hc.symm, hv.symm, hf.symm, ht.symm⟩

/-- Every snapshot was kept before a change that stands. -/
theorem Faithful.revision_of_snapshot (h : Faithful s) (hp : p ∈ s.tables.snapshots) :
    ∃ r ∈ s.revisions p.contact, p.Keeps r := by
  have hmem : p.entry ∈ s.tables.snapshots.map (·.entry) := List.mem_map_of_mem hp
  rw [h.filed, List.mem_reverse] at hmem
  obtain ⟨r, hr, he⟩ := List.mem_map.1 hmem
  obtain ⟨hj, hk⟩ := List.mem_filter.1 hr
  have hkeeps := keeps_of_entry hk he
  exact ⟨r, List.mem_filter.2 ⟨hj, beq_iff_eq.2 hkeeps.contact.symm⟩, hkeeps⟩

theorem Faithful.snapshot_of_revision (h : Faithful s) {id : Uuid} (hr : r ∈ s.revisions id)
    (hk : r.kept) : ∃ p ∈ s.tables.snapshots, p.contact = id ∧ p.Keeps r := by
  obtain ⟨hj, hid⟩ := List.mem_filter.1 hr
  have hmem : r.entry ∈ s.tables.snapshots.map (·.entry) := by
    rw [h.filed, List.mem_reverse]
    exact List.mem_map_of_mem (List.mem_filter.2 ⟨hj, hk⟩)
  obtain ⟨p, hp, he⟩ := List.mem_map.1 hmem
  have hkeeps := keeps_of_entry hk he.symm
  exact ⟨p, hp, hkeeps.contact.trans (beq_iff_eq.1 hid), hkeeps⟩

/-- The versions of a contact's snapshots are those of its changes that could keep one. -/
theorem Faithful.versions_filed (h : Faithful s) (id : Uuid) :
    (s.tables.snapshots.filter (·.contact == id)).map (·.version) =
      (((s.revisions id).filter (·.kept)).map (·.version)).reverse := by
  have he := congrArg (fun l => (l.filter (·.1 == id)).map (·.2.1)) h.filed
  simp only [List.filter_reverse, List.filter_map, List.filter_filter, List.map_reverse,
    List.map_map] at he
  simp only [Bool.and_comm] at he
  rw [Store.revisions, List.filter_filter]
  exact he

/-- No snapshot has the present version of its contact, or a later one. -/
theorem Faithful.version_lt (h : Faithful s) (hc : c ∈ s.tables.contacts)
    (hp : p ∈ s.tables.snapshots) (hpc : p.contact = c.id) :
    1 ≤ p.version ∧ p.version < c.version := by
  obtain ⟨f₀, hd⟩ := h.traced c hc
  obtain ⟨r, hr, hkeeps⟩ := h.revision_of_snapshot hp
  rw [hpc] at hr
  rw [hkeeps.version]
  exact hd.range_of_mem hr

theorem Faithful.one_le_version (h : Faithful s) (hc : c ∈ s.tables.contacts) :
    1 ≤ c.version := by
  obtain ⟨f₀, hd⟩ := h.traced c hc
  have := hd.version_eq
  omega

/-- The store has a place for the snapshot before the next change of a contact. -/
theorem Faithful.admissible (h : Faithful s) (hc : c ∈ s.tables.contacts) :
    Snapshots.admissible s.tables c.id c.version := by
  unfold Snapshots.admissible
  rw [Tables.contact?_of_mem h.numbered.nodup hc]
  simp only [Option.isSome_some, Bool.true_and, Bool.not_eq_true', List.any_eq_false,
    Bool.and_eq_true, beq_iff_eq, not_and]
  intro p hp hpc hv
  have := h.version_lt hc hp hpc
  omega

theorem fitsSigned_of_le {m n : Int} (h : fitsSigned n) (hm : 1 ≤ m) (hn : m ≤ n) :
    fitsSigned m := by
  simp only [fitsSigned, Bool.and_eq_true, decide_eq_true_eq] at h ⊢
  omega

/-- Only a refusal keeps a snapshot from being taken. -/
theorem Faithful.snapshotTaken_iff (h : Faithful s) (hc : c ∈ s.tables.contacts)
    (hv : fitsSigned (c.version + 1)) : History.SnapshotTaken env s c ↔
      env.refusal s.tried (.insertSnapshot c.id c.version) = none ∧ env.now.isDated := by
  have hfits := fitsSigned_of_le hv (h.one_le_version hc) (by omega)
  constructor
  · rintro ⟨hr, ht, -, -⟩
    exact ⟨hr, ht⟩
  · rintro ⟨hr, ht⟩
    exact ⟨hr, ht, hfits, h.admissible hc⟩

/-- A change was made under certain conditions. They did not refuse the write of it, and its
snapshot was kept unless they refused the write before that one. -/
structure Revision.Made (env : Conditions) (r : Revision) : Prop where
  time : r.time = env.now
  kept : ∃ n, env.refusal (n + 1) (.updateContact r.contact) = none ∧
    (r.kept ↔ env.refusal n (.insertSnapshot r.contact r.version) = none ∧ env.now.isDated)

theorem made_move (hm : Move env s s') (h : Faithful s) (hr : r ∈ s'.journal) :
    r ∈ s.journal ∨ r.Made env := by
  cases hm with
  | apart ha => exact Or.inl (ha.journal ▸ hr)
  | created _ _ _ _ _ journal _ _ => exact Or.inl (journal ▸ hr)
  | revised c changes kept mem taken recorded =>
    rw [recorded.journal] at hr
    rcases List.mem_cons.1 hr with rfl | hr
    · have hkept := recorded.taken.trans (h.snapshotTaken_iff mem taken.2.2)
      exact Or.inr ⟨rfl, s.tried, taken.1, hkept⟩
    · exact Or.inl hr
  | switched _ _ _ _ _ journal _ => exact Or.inl (journal ▸ hr)

/-- Every change in the journal was made in a step of the run. -/
theorem made_run (h : Faithful s) (hr : r ∈ (s.run steps).journal) :
    r ∈ s.journal ∨ ∃ x ∈ steps, r.Made x.env := by
  have hrun := relation_run (P := fun env => ∃ x ∈ steps, x.env = env)
    (R := fun a b => Faithful a → Faithful b ∧
      ∀ r ∈ b.journal, r ∈ a.journal ∨ ∃ x ∈ steps, r.Made x.env)
    (fun a ha => ⟨ha, fun r hr => Or.inl hr⟩) ?_ ?_ h.numbered (fun x hx => ⟨x, hx, rfl⟩) h
  · exact hrun.2 r hr
  · intro a b c hab hbc ha
    obtain ⟨hb, hjb⟩ := hab ha
    obtain ⟨hc, hjc⟩ := hbc hb
    refine ⟨hc, fun r hr => ?_⟩
    rcases hjc r hr with hr | hr
    · exact hjb r hr
    · exact Or.inr hr
  · rintro env a b ⟨x, hx, rfl⟩ - hm ha
    refine ⟨faithful_move hm ha, fun r hr => ?_⟩
    rcases made_move hm ha hr with hr | hr
    · exact Or.inl hr
    · exact Or.inr ⟨x, hx, hr⟩

/-- In a run from the empty store, every change was made in one of the steps. -/
theorem made_of_revision {id : Uuid} (hr : r ∈ (Store.run {} steps).revisions id) :
    ∃ x ∈ steps, r.Made x.env := by
  obtain hr | hx := made_run faithful_empty (List.mem_filter.1 hr).1
  · cases hr
  · exact hx

end AddressBook
