import AddressBook.Proofs.History.Versions
import Mathlib.Data.List.Nodup

/-!
The latest snapshot of a contact by a certain time: the one of the highest version among those that
were taken by then.
-/
namespace AddressBook.History

open AddressBook.Action

/-- A snapshot has the highest version among those of its contact that were taken by a certain
time. -/
structure IsLatest (t : Tables) (time : Instant) (id : Uuid) (p : Snapshot) : Prop where
  mem : p ∈ t.snapshots
  contact : p.contact = id
  taken : p.taken ≤ time
  highest : ∀ q ∈ t.snapshots, q.contact = id → q.taken ≤ time → q.version ≤ p.version

/-- The values of a contact's latest snapshot by a certain time, or its present ones if it has no
such snapshot. -/
def latestFields (t : Tables) (time : Instant) (c : Contact) : Fields :=
  match (t.history c.id).find? (·.taken ≤ time) with
  | some p => p.fields
  | none => c.fields

/-- The snapshots of a contact in the order in which they were taken. -/
def filed (t : Tables) (id : Uuid) : List Snapshot := t.snapshots.filter (·.contact == id)

variable {t t' : Tables} {time : Instant} {id : Uuid} {c : Contact} {p : Snapshot}

theorem mem_filed : p ∈ filed t id ↔ p ∈ t.snapshots ∧ p.contact = id := by
  rw [filed, List.mem_filter, beq_iff_eq]

theorem mem_history : p ∈ t.history id ↔ p ∈ t.snapshots ∧ p.contact = id :=
  mem_sortList.trans mem_filed

theorem history_congr (h : filed t' id = filed t id) : t'.history id = t.history id :=
  congrArg (sortList _) h

theorem latestFields_congr (h : filed t' c.id = filed t c.id) :
    latestFields t' time c = latestFields t time c := by
  unfold latestFields
  rw [history_congr h]

/-! ### Looking it up -/

theorem latest?_run (hd : time.isDated) (id : Uuid) (s : Store) :
    Snapshots.latest? id time s = .ok ((s.tables.history id).find? (·.taken ≤ time)) s := by
  unfold Snapshots.latest?
  rw [bind_of_ok ((bindInstant_checks time).ok hd s)]
  rfl

/-- In a history from the highest version down, what is found first has the highest version. -/
theorem version_le_of_find? {ps : List Snapshot} {q : Snapshot} {f : Snapshot → Bool}
    (h : ps.Pairwise fun p q => q.version ≤ p.version) (hf : ps.find? f = some q) (hp : p ∈ ps)
    (hfp : f p) : p.version ≤ q.version := by
  obtain ⟨-, as, bs, rfl, has⟩ := List.find?_eq_some_iff_append.1 hf
  obtain ⟨-, hqbs, -⟩ := List.pairwise_append.1 h
  rcases List.mem_append.1 hp with hp | hp
  · have := has p hp
    simp [hfp] at this
  · rcases List.mem_cons.1 hp with rfl | hp
    · exact Int.le_refl _
    · exact (List.pairwise_cons.1 hqbs).1 p hp

theorem isLatest_of_find? (h : (t.history id).find? (·.taken ≤ time) = some p) :
    IsLatest t time id p := by
  obtain ⟨hp, hpc⟩ := mem_history.1 (List.mem_of_find?_eq_some h)
  refine ⟨hp, hpc, by simpa using List.find?_some h, ?_⟩
  intro q hq hqc hqt
  exact version_le_of_find? (history_sorted t id) h (mem_history.2 ⟨hq, hqc⟩) (by simpa using hqt)

theorem find?_history_eq_none : (t.history id).find? (·.taken ≤ time) = none ↔
    ∀ q ∈ t.snapshots, q.contact = id → time < q.taken := by
  simp only [List.find?_eq_none, mem_history, decide_eq_true_eq, Int.not_le, and_imp]

/-- If no two snapshots of a contact have the same version, only one of them is the latest. -/
theorem IsLatest.find?_eq (h : IsLatest t time id p)
    (hn : ((filed t id).map (·.version)).Nodup) :
    (t.history id).find? (·.taken ≤ time) = some p := by
  cases hf : (t.history id).find? (·.taken ≤ time) with
  | none =>
    have := find?_history_eq_none.1 hf p h.mem h.contact
    exact absurd h.taken (Int.not_le.2 this)
  | some q =>
    have hq := isLatest_of_find? hf
    have hv : q.version = p.version :=
      Int.le_antisymm (h.highest q hq.mem hq.contact hq.taken)
        (hq.highest p h.mem h.contact h.taken)
    have hqp : q = p := List.inj_on_of_nodup_map hn (mem_filed.2 ⟨hq.mem, hq.contact⟩)
      (mem_filed.2 ⟨h.mem, h.contact⟩) hv
    rw [hqp]

end AddressBook.History
