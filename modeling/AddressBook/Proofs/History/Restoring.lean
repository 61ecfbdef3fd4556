import AddressBook.Proofs.History.Turns

/-!
Restoring all contacts to a time while the store refuses nothing. Each contact in use that existed
by then gets the values of its latest snapshot by then, if the store has room for them, and what it
had before is filed.
-/
namespace AddressBook.History

open AddressBook.Action

variable {env : Conditions} {time : Instant} {s s' : Store} {t t' : Tables} {c : Contact}
  {cs : List Contact}

/-- The store has room for the values that a contact is restored to, and for its next version. -/
structure Restorable (env : Conditions) (t : Tables) (time : Instant) (c : Contact) : Prop where
  fits : env.Fits (latestFields t time c).values
  room : fitsSigned (c.version + 1)

/-- Restoring to a time gives a contact other values than it has. -/
structure Returns (env : Conditions) (t : Tables) (time : Instant) (c : Contact) : Prop where
  differs : latestFields t time c ≠ c.fields
  restorable : Restorable env t time c

instance (env : Conditions) (t : Tables) (time : Instant) (c : Contact) :
    Decidable (Returns env t time c) :=
  decidable_of_iff (latestFields t time c ≠ c.fields ∧
      env.Fits (latestFields t time c).values ∧ fitsSigned (c.version + 1))
    ⟨fun h => ⟨h.1, h.2.1, h.2.2⟩, fun h => ⟨h.differs, h.restorable.fits, h.restorable.room⟩⟩

/-- A contact after its turn in the loop. -/
def returned (env : Conditions) (t : Tables) (time : Instant) (c : Contact) : Contact :=
  if Returns env t time c then c.revised (latestFields t time c).toChanges env.now else c

/-- The number of contacts to which restoring to a time gives other values. -/
def returnCount (env : Conditions) (t : Tables) (time : Instant) : Nat :=
  (existingAt t time).countP fun c => Returns env t time c

/-- There is a place for a snapshot of a contact's present version. -/
structure Fileable (env : Conditions) (t : Tables) (c : Contact) : Prop where
  dated : env.now.isDated
  fits : fitsSigned c.version
  fresh : ∀ p ∈ filed t c.id, p.version ≠ c.version

/-- What its turn adds to the snapshots of a contact. -/
structure Refiled (env : Conditions) (time : Instant) (c : Contact) (t t' : Tables)
    (kept : List Snapshot) : Prop where
  filed : filed t' c.id = filed t c.id ++ kept
  entry : ∀ p ∈ kept, p.version = c.version ∧ p.fields = c.fields ∧ p.taken = env.now
  single : kept.length ≤ 1
  kept : kept ≠ [] ↔ Returns env t time c ∧ Fileable env t c

/-- What restoring some contacts comes to. -/
structure Restored (env : Conditions) (time : Instant) (cs : List Contact) (t t' : Tables) :
    Prop where
  contacts : t'.contacts = t.contacts.map fun c => if c ∈ cs then returned env t time c else c
  refiled : ∀ c ∈ cs, ∃ kept, Refiled env time c t t' kept
  others : ∀ id, id ∉ cs.map (·.id) → filed t' id = filed t id
  still : (∀ c ∈ cs, ¬ Returns env t time c) → t' = t

theorem Restorable.congr (h : filed t' c.id = filed t c.id) (hc : Restorable env t time c) :
    Restorable env t' time c := by
  obtain ⟨hfits, hroom⟩ := hc
  rw [← latestFields_congr h] at hfits
  exact ⟨hfits, hroom⟩

theorem Returns.congr (h : filed t' c.id = filed t c.id) (hc : Returns env t time c) :
    Returns env t' time c :=
  ⟨latestFields_congr h ▸ hc.differs, hc.restorable.congr h⟩

theorem returns_congr (h : filed t' c.id = filed t c.id) :
    Returns env t' time c ↔ Returns env t time c := ⟨.congr h.symm, .congr h⟩

@[simp] theorem returned_id : (returned env t time c).id = c.id := by
  unfold returned
  split <;> rfl

@[simp] theorem returned_active : (returned env t time c).active = c.active := by
  unfold returned
  split <;> rfl

@[simp] theorem returned_created : (returned env t time c).created = c.created := by
  unfold returned
  split <;> rfl

/-! ### Turns without refusals -/

theorem fileable_iff (hr : ∀ n w, env.refusal n w = none) (hc : c ∈ s.tables.contacts) :
    SnapshotTaken env s c ↔ Fileable env s.tables c := by
  have hid : c.id ∈ s.tables.contacts.map (·.id) := List.mem_map_of_mem hc
  unfold SnapshotTaken
  rw [admissible_iff]
  constructor
  · rintro ⟨-, hd, hv, -, hfresh⟩
    exact ⟨hd, hv, hfresh⟩
  · rintro ⟨hd, hv, hfresh⟩
    exact ⟨hr _ _, hd, hv, hid, hfresh⟩

theorem moves_iff_returns (hr : ∀ n w, env.refusal n w = none) :
    Moves env time cs s c ↔ Returns env s.tables time c := by
  unfold Moves
  rw [changeTaken_toChanges]
  constructor
  · rintro ⟨hdiffers, -, hfits, hroom⟩
    exact ⟨hdiffers, hfits, hroom⟩
  · rintro ⟨hdiffers, hfits, hroom⟩
    exact ⟨hdiffers, hr _ _, hfits, hroom⟩

theorem moved_eq_returned (hr : ∀ n w, env.refusal n w = none) (cs : List Contact) (s : Store)
    (c : Contact) : moved env time cs s c =
      if c ∈ cs then returned env s.tables time c else c := by
  unfold moved returned
  by_cases hc : c ∈ cs
  · simp only [hc, true_and, if_true, moves_iff_returns hr, revised_toChanges]
  · simp only [hc, false_and, if_false]

theorem Looped.restored (hr : ∀ n w, env.refusal n w = none)
    (hmem : ∀ c ∈ cs, c ∈ s.tables.contacts) (h : Looped env time cs s s') :
    Restored env time cs s.tables s'.tables := by
  refine ⟨?_, ?_, h.others, ?_⟩
  · rw [h.contacts]
    exact List.map_congr_left fun c _ => moved_eq_returned hr cs s c
  · intro c hc
    obtain ⟨kept, hkept⟩ := h.added c hc
    refine ⟨kept.toList, hkept.filed, ?_, Option.length_toList_le, ?_⟩
    · intro p hp
      exact hkept.entry p (Option.mem_toList.1 hp)
    · have hsome : kept.toList ≠ [] ↔ kept.isSome := by cases kept <;> simp
      have hplace : SnapshotTaken env (turn time cs s c) c ↔ Fileable env s.tables c :=
        fileable_iff hr (hmem c hc)
      rw [hsome, hkept.kept, moves_iff_returns hr, hplace]
  · intro hstill
    exact h.still fun c hc => fun hmoves => hstill c hc ((moves_iff_returns hr).1 hmoves)

theorem Restored.ids (h : Restored env time cs t t') :
    t'.contacts.map (·.id) = t.contacts.map (·.id) := by
  rw [h.contacts, List.map_map]
  apply List.map_congr_left
  intro x _
  simp only [Function.comp_apply]
  split
  · exact returned_id
  · rfl

/-- Restoring all contacts to a time restores those in use that existed by then. -/
theorem restoreAll_restored (hr : ∀ n w, env.refusal n w = none) (hd : time.isDated)
    (hn : (s.tables.contacts.map (·.id)).Nodup) :
    ∃ s', (Operation.restoreAll time).perform env s =
        .ok (.restored (returnCount env s.tables time)) s' ∧
      Restored env time (existingAt s.tables time) s.tables s'.tables := by
  obtain ⟨s₁, hrun, hs₁⟩ := restoreAll_looped env hd hn
  simp only [moves_iff_returns hr] at hrun
  have hrestored := hs₁.restored hr (listed_existingAt hn time).mem
  exact ⟨_, transaction_of_ok (bind_of_ok hrun) (hr _ _), hrestored⟩

/-- Each of these contacts gets the values of its latest snapshot by then, if the store has room. -/
theorem restoreAll_run (hr : ∀ n w, env.refusal n w = none) (hd : time.isDated)
    (h : Numbered s) :
    ∃ m s', (Operation.restoreAll time).perform env s = .ok (.restored m) s' ∧
      ∀ c ∈ s.tables.contacts, c.active → c.created ≤ time → Restorable env s.tables time c →
        ∃ c' ∈ s'.tables.contacts, c'.id = c.id ∧
          c'.fields = latestFields s.tables time c := by
  obtain ⟨s', hrun, hs'⟩ := restoreAll_restored hr hd h.nodup
  refine ⟨_, s', hrun, ?_⟩
  intro c hc hactive hcreated hcr
  have hexists : c ∈ existingAt s.tables time := mem_existingAt.2 ⟨hc, hactive, hcreated⟩
  refine ⟨returned env s.tables time c, ?_, returned_id, ?_⟩
  · rw [hs'.contacts]
    exact List.mem_map.2 ⟨c, hc, if_pos hexists⟩
  · unfold returned
    split
    case isTrue =>
      rw [revised_toChanges]
      rfl
    case isFalse hnot =>
      by_cases hsame : latestFields s.tables time c = c.fields
      · exact hsame.symm
      · exact absurd ⟨hsame, hcr⟩ hnot

end AddressBook.History
