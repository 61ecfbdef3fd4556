import AddressBook.Proofs.History.Filing

/-!
History is truthful: a version of a contact stands for certain values once and for all, and a
snapshot of it holds these. So every snapshot can be restored, and the restoring undone.
-/
namespace AddressBook

open AddressBook.Action AddressBook.History

variable {env : Conditions} {s s' : Store} {c c' : Contact} {p q : Snapshot}

/-- A contact that was given the values of an earlier version. -/
def Contact.restored (c : Contact) (f : Fields) (now : Instant) : Contact :=
  { c with fields := f, version := c.version + 1, updated := now }

/-- Restoring a contact to a version succeeds, and gives it certain values as its next version. -/
structure Restores (env : Conditions) (s : Store) (c : Contact) (v : Int) (f : Fields)
    (s' : Store) : Prop where
  answer : (Operation.restoreVersion c.id v).perform env s =
    .ok (.contact (c.restored f env.now)) s'
  stored : c.restored f env.now ∈ s'.tables.contacts

/-- The store takes the values that a contact is to be restored to, and the commit behind them. -/
def RestoreTaken (env : Conditions) (s : Store) (c : Contact) (f : Fields) : Prop :=
  ChangeTaken env s c f.toChanges ∧ env.refusal (s.tried + 2) .commit = none

/-- Two snapshots of one version hold the same values. -/
theorem Faithful.fields_eq (h : Faithful s) (hc : c ∈ s.tables.contacts)
    (hp : p ∈ s.tables.snapshots) (hq : q ∈ s.tables.snapshots) (hpc : p.contact = c.id)
    (hqc : q.contact = c.id) (hv : p.version = q.version) : p.fields = q.fields := by
  obtain ⟨f₀, hd⟩ := h.traced c hc
  obtain ⟨r, hr, hpr⟩ := h.revision_of_snapshot hp
  obtain ⟨r', hr', hqr⟩ := h.revision_of_snapshot hq
  rw [hpc] at hr
  rw [hqc] at hr'
  have hrr : r = r' := hd.unique hr hr' (by rw [← hpr.version, ← hqr.version, hv])
  rw [hpr.fields, hqr.fields, hrr]

theorem Faithful.find?_run (h : Faithful s) (hc : c ∈ s.tables.contacts)
    (hv : fitsSigned (c.version + 1)) (hp : p ∈ s.tables.snapshots) (hpc : p.contact = c.id) :
    ∃ q, q.fields = p.fields ∧ Snapshots.find? c.id p.version s = .ok (some q) s := by
  obtain ⟨h₁, hlt⟩ := h.version_lt hc hp hpc
  have hfits := fitsSigned_of_le hv h₁ (by omega)
  have hrun : Snapshots.find? c.id p.version s = .ok
      (s.tables.snapshots.find? fun q => q.contact == c.id && q.version == p.version) s := by
    unfold Snapshots.find?
    rw [bind_of_ok ((bindInteger_checks _).ok hfits s)]
    rfl
  cases hf : s.tables.snapshots.find? fun q => q.contact == c.id && q.version == p.version with
  | none =>
    have hne := List.find?_eq_none.1 hf p hp
    simp [hpc] at hne
  | some q =>
    have hq := List.find?_some hf
    simp only [Bool.and_eq_true, beq_iff_eq] at hq
    refine ⟨q, ?_, by rw [hrun, hf]⟩
    exact h.fields_eq hc (List.mem_of_find?_eq_some hf) hp hq.1 hpc hq.2

/-- Every snapshot can be restored, and what was there before can be kept. -/
theorem Faithful.restores (h : Faithful s) (hc : c ∈ s.tables.contacts)
    (hp : p ∈ s.tables.snapshots) (hpc : p.contact = c.id)
    (htaken : RestoreTaken env s c p.fields) :
    ∃ s', Restores env s c p.version p.fields s' ∧ Faithful s' ∧
      (env.refusal s.tried (.insertSnapshot c.id c.version) = none → env.now.isDated →
        ∃ q ∈ s'.tables.snapshots, q.contact = c.id ∧ q.version = c.version ∧
          q.fields = c.fields) := by
  obtain ⟨hchange, hcommit⟩ := htaken
  obtain ⟨q, hq, hfind⟩ := h.find?_run hc hchange.2.2 hp hpc
  rw [← hq] at hchange
  obtain ⟨kept, s₁, hrec, hs₁⟩ := record_of_taken hchange
  have hrestore : restore env c.id p.version s = .ok (c.restored p.fields env.now) s₁ := by
    unfold restore
    rw [bind_of_ok (Contacts.get_of_mem h.numbered.nodup hc), bind_of_ok hfind, ← hq]
    exact hrec
  have hrun : (Operation.restoreVersion c.id p.version).run env s =
      .ok (.contact (c.restored p.fields env.now)) s₁ := bind_of_ok hrestore
  rw [← hs₁.tried] at hcommit
  have hfaithful : Faithful s₁ := faithful_move (.revised c _ kept hc hchange hs₁) h
  have hcommitted : Move env s₁ { s₁ with tried := s₁.tried + 1 } := .apart (Apart.tried s₁)
  refine ⟨_, ⟨transaction_of_ok hrun hcommit, ?_⟩, faithful_move hcommitted hfaithful, ?_⟩
  · rw [hs₁.tables, ← hq]
    exact Tables.setContact_mem hc rfl
  · intro hr ht
    have hkept := hs₁.taken.2 ((h.snapshotTaken_iff hc hchange.2.2).2 ⟨hr, ht⟩)
    obtain ⟨k, rfl⟩ := Option.isSome_iff_exists.1 hkept
    obtain rfl := hs₁.snapshot k rfl
    refine ⟨nextSnapshot s c env.now, ?_, rfl, rfl, rfl⟩
    rw [hs₁.tables]
    exact List.mem_append_right _ (List.mem_singleton_self _)

/-- A contact has the same values whenever it has the same version. -/
theorem Continues.fields_eq {during : Instant → Prop} (hcont : Continues during s s')
    (h' : Faithful s') (hc : c ∈ s.tables.contacts) (hc' : c' ∈ s'.tables.contacts)
    (hid : c.id = c'.id) (hv : c.version = c'.version) : c.fields = c'.fields := by
  obtain ⟨d, hd, hs⟩ := hcont.contacts c hc
  obtain rfl := h'.numbered.eq_of_id hd hc' (hs.id.trans hid)
  obtain ⟨rs, -, hpath, -⟩ := hs.path
  rw [← hv] at hpath
  exact hpath.eq_of_version.2.symm

/-- A snapshot that is taken of a contact's version, now or later, holds the values that the
contact has at that version. -/
theorem Continues.snapshot_eq {during : Instant → Prop} (hcont : Continues during s s')
    (h : Faithful s) (h' : Faithful s') (hc : c ∈ s.tables.contacts)
    (hp : p ∈ s'.tables.snapshots) (hpc : p.contact = c.id) (hv : p.version = c.version) :
    p.fields = c.fields := by
  obtain ⟨d, -, hs⟩ := hcont.contacts c hc
  obtain ⟨rs, hrs, hpath, -⟩ := hs.path
  obtain ⟨f₀, htraced⟩ := h.traced c hc
  obtain ⟨r, hr, hkeeps⟩ := h'.revision_of_snapshot hp
  rw [hpc, hrs, List.mem_append] at hr
  have hrv : r.version = c.version := hkeeps.version.symm.trans hv
  rcases hr with hr | hr
  · rw [hkeeps.fields]
    exact hpath.before_start hr hrv
  · -- changes before the present version started from lower ones
    have := htraced.range_of_mem hr
    omega

/-- The store after the first steps of a run. -/
def point (steps : List Step) (i : Nat) : Store := Store.run {} (steps.take i)

theorem faithful_point (steps : List Step) (i : Nat) : Faithful (point steps i) :=
  faithful_run faithful_empty

theorem continues_point (steps : List Step) {i j : Nat} (h : i ≤ j) :
    Continues (fun _ => True) (point steps i) (point steps j) := by
  have hsplit : steps.take j = steps.take i ++ (steps.take j).drop i := by
    have htake : (steps.take j).take i = steps.take i := by rw [List.take_take, Nat.min_eq_left h]
    rw [← htake, List.take_append_drop]
  unfold point
  rw [hsplit, run_append]
  exact continues_run (faithful_point steps i).numbered fun _ _ => trivial

/-- The history of contacts in a run is truthful, and can be restored. -/
structure Truthful (steps : List Step) : Prop where
  values : ∀ i j, ∀ c ∈ (point steps i).tables.contacts, ∀ d ∈ (point steps j).tables.contacts,
    c.id = d.id → c.version = d.version → c.fields = d.fields
  held : ∀ i j, ∀ p ∈ (point steps i).tables.snapshots, ∀ c ∈ (point steps j).tables.contacts,
    p.contact = c.id → p.version = c.version → p.fields = c.fields
  /-- Some versions come to an end in the operation that makes them; the journal has their
  values too. -/
  traced : ∀ i, ∀ c ∈ (point steps i).tables.contacts, Traced (point steps i) c
  noted : ∀ i, ∀ p ∈ (point steps i).tables.snapshots,
    ∃ r ∈ (point steps i).revisions p.contact, r.version = p.version ∧ r.before = p.fields
  lasting : ∀ i j, i ≤ j → (point steps i).tables.snapshots <+: (point steps j).tables.snapshots
  restorable : ∀ i, ∀ c ∈ (point steps i).tables.contacts, ∀ p ∈ (point steps i).tables.snapshots,
    p.contact = c.id → ∀ env, RestoreTaken env (point steps i) c p.fields →
      ∃ s', Restores env (point steps i) c p.version p.fields s' ∧
        (env.refusal (point steps i).tried (.insertSnapshot c.id c.version) = none →
          env.now.isDated → ∀ env', RestoreTaken env' s' (c.restored p.fields env.now) c.fields →
            ∃ s₂, Restores env' s' (c.restored p.fields env.now) c.version c.fields s₂)

/-- Every run keeps a truthful history. -/
theorem truthful_run (steps : List Step) : Truthful steps := by
  have hf (i : Nat) := faithful_point steps i
  refine ⟨?_, ?_, fun i => (hf i).traced, ?_, fun i j h => (continues_point steps h).snapshots, ?_⟩
  · intro i j c hc d hd hid hv
    rcases Nat.le_total i j with hij | hji
    · exact (continues_point steps hij).fields_eq (hf j) hc hd hid hv
    · exact ((continues_point steps hji).fields_eq (hf i) hd hc hid.symm hv.symm).symm
  · intro i j p hp c hc hpc hv
    rcases Nat.le_total i j with hij | hji
    · have hp' := (continues_point steps hij).snapshots.subset hp
      exact (Continues.refl (p := fun _ => True) _).snapshot_eq (hf j) (hf j) hc hp' hpc hv
    · exact (continues_point steps hji).snapshot_eq (hf j) (hf i) hc hp hpc hv
  · intro i p hp
    obtain ⟨r, hr, hkeeps⟩ := (hf i).revision_of_snapshot hp
    exact ⟨r, hr, hkeeps.version.symm, hkeeps.fields.symm⟩
  · intro i c hc p hp hpc env htaken
    obtain ⟨s', hrestores, hs', hkept⟩ := (hf i).restores hc hp hpc htaken
    refine ⟨s', hrestores, ?_⟩
    intro hr ht env' htaken'
    obtain ⟨q, hq, hqc, hqv, hqf⟩ := hkept hr ht
    rw [← hqf] at htaken'
    obtain ⟨s₂, hs₂, -, -⟩ := hs'.restores hrestores.stored hq hqc htaken'
    rw [hqv, hqf] at hs₂
    exact ⟨s₂, hs₂⟩

theorem restorable_renamedOnce : ∃ s' s₂,
    Restores (.fair 3) (point renamedOnce 2)
      ⟨.numbered 0xc0 1, { name := some ['b'] }, 2, true, none, 1, 2⟩ 1 { name := some ['a'] } s' ∧
    Restores (.fair 4) s'
      ⟨.numbered 0xc0 1, { name := some ['a'] }, 3, true, none, 1, 3⟩ 2 { name := some ['b'] } s₂ := by
  obtain ⟨s', h, hback⟩ := (truthful_run renamedOnce).restorable 2
    ⟨.numbered 0xc0 1, { name := some ['b'] }, 2, true, none, 1, 2⟩ (by decide)
    ⟨.numbered 0xe0 1, .numbered 0xc0 1, 1, { name := some ['a'] }, 2⟩ (by decide) rfl (.fair 3)
    ⟨⟨rfl, fun _ _ => rfl, by decide⟩, rfl⟩
  obtain ⟨s₂, h₂⟩ := hback rfl (by decide) (.fair 4) ⟨⟨rfl, fun _ _ => rfl, by decide⟩, rfl⟩
  exact ⟨s', s₂, h, h₂⟩

end AddressBook
