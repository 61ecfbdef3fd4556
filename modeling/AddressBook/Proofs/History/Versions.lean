import AddressBook.Proofs.History.Filing

/-!
Completeness of the version history: a contact has one snapshot for each change of it whose
snapshot was not refused, and no others.
-/
namespace AddressBook

/-- A contact's history in a store that some steps have led to. -/
structure Logged (steps : List Step) (s : Store) (c : Contact) : Prop where
  /-- Each earlier version was ended by one change that stands, made in one of the steps. -/
  changed : ∀ v, 1 ≤ v → v < c.version → ∃ r ∈ s.revisions c.id, r.version = v ∧
    (∃ x ∈ steps, r.Made x.env) ∧ ∀ r' ∈ s.revisions c.id, r'.version = v → r' = r
  single : ((s.tables.snapshots.filter (·.contact == c.id)).map (·.version)).Nodup
  range : ∀ p ∈ s.tables.snapshots, p.contact = c.id → 1 ≤ p.version ∧ p.version < c.version
  present : ∀ v, (∃ p ∈ s.tables.snapshots, p.contact = c.id ∧ p.version = v) ↔
    ∃ r ∈ s.revisions c.id, r.version = v ∧ r.kept
  complete : (∀ x ∈ steps, x.env.now.isDated ∧
      ∀ n id v, x.env.refusal n (.insertSnapshot id v) = none) →
    ∀ v, (∃ p ∈ s.tables.snapshots, p.contact = c.id ∧ p.version = v) ↔ 1 ≤ v ∧ v < c.version
  listed : ∃ history, History.versions c.id s = .ok history s ∧
    history.Pairwise (fun p q => q.version < p.version) ∧
    history.Perm (s.tables.snapshots.filter (·.contact == c.id))

variable {s : Store} {c : Contact} {steps : List Step}

theorem Faithful.versions_nodup (h : Faithful s) (hc : c ∈ s.tables.contacts) :
    ((s.tables.snapshots.filter (·.contact == c.id)).map (·.version)).Nodup := by
  obtain ⟨f₀, hd⟩ := h.traced c hc
  rw [h.versions_filed]
  apply (List.reverse_perm _).nodup_iff.2
  apply List.pairwise_map.2
  exact (hd.descending.filter fun r => r.kept).imp fun hlt => Int.ne_of_gt hlt

theorem Faithful.present_iff (h : Faithful s) (id : Uuid) (v : Int) :
    (∃ p ∈ s.tables.snapshots, p.contact = id ∧ p.version = v) ↔
      ∃ r ∈ s.revisions id, r.version = v ∧ r.kept := by
  constructor
  · rintro ⟨p, hp, rfl, rfl⟩
    obtain ⟨r, hr, hkeeps⟩ := h.revision_of_snapshot hp
    exact ⟨r, hr, hkeeps.version.symm, hkeeps.kept⟩
  · rintro ⟨r, hr, rfl, hk⟩
    obtain ⟨p, hp, hpc, hkeeps⟩ := h.snapshot_of_revision hr hk
    exact ⟨p, hp, hpc, hkeeps.version⟩

/-- Of any two snapshots, one may be listed before the other. -/
theorem listing_total (p q : Snapshot) (h : decide (q.version ≤ p.version) = false) :
    decide (p.version ≤ q.version) = true := by
  simp only [decide_eq_false_iff_not, decide_eq_true_eq] at h ⊢
  omega

theorem listing_trans (p q r : Snapshot) (h : decide (q.version ≤ p.version) = true)
    (h' : decide (r.version ≤ q.version) = true) : decide (r.version ≤ p.version) = true := by
  simp only [decide_eq_true_eq] at h h' ⊢
  omega

theorem history_sorted (t : Tables) (id : Uuid) :
    (t.history id).Pairwise fun p q => q.version ≤ p.version :=
  (sortList_pairwise listing_total listing_trans _).imp of_decide_eq_true

/-- A history without equal versions is listed from the highest down. -/
theorem history_descending {t : Tables} {id : Uuid}
    (h : ((t.snapshots.filter (·.contact == id)).map (·.version)).Nodup) :
    (t.history id).Pairwise fun p q => q.version < p.version := by
  have hperm : (t.history id).Perm (t.snapshots.filter (·.contact == id)) := sortList_perm _ _
  have hne : (t.history id).Pairwise fun p q => p.version ≠ q.version :=
    List.pairwise_map.1 ((hperm.map Snapshot.version).nodup_iff.2 h)
  apply (history_sorted t id).imp₂ _ hne
  intro p q hpq hv
  omega

/-- Every run keeps a complete history of each contact. -/
theorem logged_run (steps : List Step) (hc : c ∈ (Store.run {} steps).tables.contacts) :
    Logged steps (Store.run {} steps) c := by
  have h : Faithful (Store.run {} steps) := faithful_run faithful_empty
  obtain ⟨f₀, hd⟩ := h.traced c hc
  have hsingle := h.versions_nodup hc
  refine ⟨?_, hsingle, fun p hp hpc => h.version_lt hc hp hpc, h.present_iff c.id, ?_, ?_⟩
  · intro v h₁ hv
    obtain ⟨r, hr, rfl⟩ := hd.exists_of_range h₁ hv
    exact ⟨r, hr, rfl, made_of_revision hr, fun r' hr' he => hd.unique hr' hr he⟩
  · intro hkeep v
    constructor
    · rintro ⟨p, hp, hpc, rfl⟩
      exact h.version_lt hc hp hpc
    · rintro ⟨h₁, hv⟩
      obtain ⟨r, hr, hrv⟩ := hd.exists_of_range h₁ hv
      obtain ⟨x, hx, hm⟩ := made_of_revision hr
      obtain ⟨n, -, hkept⟩ := hm.kept
      obtain ⟨ht, hn⟩ := hkeep x hx
      exact (h.present_iff c.id v).2 ⟨r, hr, hrv, hkept.2 ⟨hn n _ _, ht⟩⟩
  · refine ⟨(Store.run {} steps).tables.history c.id, ?_, history_descending hsingle,
      sortList_perm _ _⟩
    unfold History.versions
    rw [Action.bind_of_ok (Contacts.get_of_mem h.numbered.nodup hc)]
    rfl

/-- A contact is created and changes twice, and the snapshot of its first version is refused. -/
def refusedOnce : List Step :=
  [⟨.fair 1, .createContact { name := some ['a'] }⟩,
    ⟨{ Conditions.fair 2 with
      refusal := fun _ w => if w = .insertSnapshot (.numbered 0xc0 1) 1 then some [] else none },
      .updateContact (.numbered 0xc0 1) [(.name, some ['b'])]⟩,
    ⟨.fair 3, .updateContact (.numbered 0xc0 1) [(.name, some ['c'])]⟩]

theorem logged_refusedOnce :
    (Store.run {} refusedOnce).tables.snapshots.map (·.version) = [2] ∧
      Logged refusedOnce (Store.run {} refusedOnce)
        ⟨.numbered 0xc0 1, { name := some ['c'] }, 3, true, none, 1, 3⟩ :=
  ⟨by decide, logged_run refusedOnce (by decide)⟩

end AddressBook
