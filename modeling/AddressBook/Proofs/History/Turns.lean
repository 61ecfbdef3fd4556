import AddressBook.Proofs.History.Latest
import AddressBook.Proofs.History.Values

/-!
Restoring contacts one by one, whatever writes the store refuses. Each contact has a turn of its
own: what is tried there stands or leaves nothing behind, and no turn bears on that of another
contact but for the number of writes that were tried before.
-/
namespace AddressBook.History

open AddressBook.Action

variable {env : Conditions} {time : Instant} {s s' s₁ : Store} {t t' : Tables} {c x : Contact}
  {cs : List Contact} {changes : Changes}

instance : Decidable (ChangeTaken env s c changes) := inferInstanceAs (Decidable (_ ∧ _))

instance : Decidable (SnapshotTaken env s c) := inferInstanceAs (Decidable (_ ∧ _))

/-- The values of its latest snapshot by a certain time are not those of the contact. -/
def Differs (t : Tables) (time : Instant) (c : Contact) : Prop :=
  latestFields t time c ≠ c.fields

instance : Decidable (Differs t time c) := inferInstanceAs (Decidable (_ ≠ _))

/-- The store at a contact's turn, as far as this contact goes. Two writes were tried for each
contact before it that was to get other values: a snapshot and the contact itself. -/
def turn (time : Instant) (cs : List Contact) (s : Store) (c : Contact) : Store :=
  { s with tried := s.tried + 2 * (cs.takeWhile (· ≠ c)).countP fun x => Differs s.tables time x }

/-- A contact gets other values at its turn. -/
def Moves (env : Conditions) (time : Instant) (cs : List Contact) (s : Store) (c : Contact) :
    Prop :=
  Differs s.tables time c ∧
    ChangeTaken env (turn time cs s c) c (latestFields s.tables time c).toChanges

instance : Decidable (Moves env time cs s c) := inferInstanceAs (Decidable (_ ∧ _))

/-- A contact after the turns of some contacts. -/
def moved (env : Conditions) (time : Instant) (cs : List Contact) (s : Store) (c : Contact) :
    Contact :=
  if c ∈ cs ∧ Moves env time cs s c then c.restored (latestFields s.tables time c) env.now else c

/-- What its turn adds to the snapshots of a contact. -/
structure Added (env : Conditions) (time : Instant) (cs : List Contact) (s s' : Store)
    (c : Contact) (kept : Option Snapshot) : Prop where
  filed : filed s'.tables c.id = filed s.tables c.id ++ kept.toList
  entry : ∀ p ∈ kept, p.version = c.version ∧ p.fields = c.fields ∧ p.taken = env.now
  kept : kept.isSome ↔ Moves env time cs s c ∧ SnapshotTaken env (turn time cs s c) c

/-- What the turns of some contacts come to. -/
structure Looped (env : Conditions) (time : Instant) (cs : List Contact) (s s' : Store) :
    Prop where
  contacts : s'.tables.contacts = s.tables.contacts.map (moved env time cs s)
  added : ∀ c ∈ cs, ∃ kept, Added env time cs s s' c kept
  others : ∀ id, id ∉ cs.map (·.id) → filed s'.tables id = filed s.tables id
  elsewhere : s'.tables = { s.tables with
    contacts := s'.tables.contacts, snapshots := s'.tables.snapshots }
  tried : s'.tried = s.tried + 2 * cs.countP fun c => Differs s.tables time c
  still : (∀ c ∈ cs, ¬ Moves env time cs s c) → s'.tables = s.tables

/-! ### What a turn depends on -/

theorem differs_congr (h : filed t' c.id = filed t c.id) :
    Differs t' time c ↔ Differs t time c := by
  unfold Differs
  rw [latestFields_congr h]

theorem changeTaken_congr (h : s'.tried = s.tried) :
    ChangeTaken env s' c changes ↔ ChangeTaken env s c changes := by
  unfold ChangeTaken
  rw [h]

theorem changeTaken_toChanges {f : Fields} : ChangeTaken env s c f.toChanges ↔
    env.refusal (s.tried + 1) (.updateContact c.id) = none ∧ env.Fits f.values ∧
      fitsSigned (c.version + 1) := by
  unfold ChangeTaken
  rw [Fields.apply_toChanges]

theorem revised_toChanges (c : Contact) (f : Fields) (now : Instant) :
    c.revised f.toChanges now = c.restored f now := by
  unfold Contact.revised
  rw [Fields.apply_toChanges]
  rfl

theorem admissible_iff {id : Uuid} {version : Int} : Snapshots.admissible t id version ↔
    id ∈ t.contacts.map (·.id) ∧ ∀ p ∈ filed t id, p.version ≠ version := by
  unfold Snapshots.admissible
  simp only [Bool.and_eq_true, Tables.contact?_isSome_iff, Bool.not_eq_true', List.any_eq_false,
    beq_iff_eq, not_and, mem_filed, and_imp, ne_eq]

theorem snapshotTaken_congr (htried : s'.tried = s.tried)
    (hids : s'.tables.contacts.map (·.id) = s.tables.contacts.map (·.id))
    (hfiled : filed s'.tables c.id = filed s.tables c.id) :
    SnapshotTaken env s' c ↔ SnapshotTaken env s c := by
  unfold SnapshotTaken
  rw [htried, admissible_iff, admissible_iff, hids, hfiled]

/-- The first contact has its turn at once. -/
theorem turn_head : turn time (c :: cs) s c = s := by
  unfold turn
  simp

@[simp] theorem moved_id : (moved env time cs s c).id = c.id := by
  unfold moved
  split <;> rfl

/-! ### One turn -/

theorem restoreTo_of_same (env : Conditions) (hd : time.isDated)
    (h : ¬ Differs s.tables time c) : restoreTo env time c s = .ok false s := by
  unfold restoreTo
  rw [bind_of_ok (latest?_run hd c.id s)]
  unfold Differs latestFields at h
  cases hf : (s.tables.history c.id).find? (·.taken ≤ time) with
  | none => rfl
  | some p =>
    rw [hf, not_ne_iff] at h
    simp only [h, if_true]
    rfl

theorem restoreTo_of_other (env : Conditions) (hd : time.isDated)
    (h : Differs s.tables time c) : restoreTo env time c s =
      (do let _ ← record env c (latestFields s.tables time c).toChanges; return true) s := by
  unfold restoreTo
  rw [bind_of_ok (latest?_run hd c.id s)]
  unfold Differs latestFields at h
  unfold latestFields
  cases hf : (s.tables.history c.id).find? (·.taken ≤ time) with
  | none =>
    rw [hf] at h
    exact absurd rfl h
  | some p =>
    rw [hf] at h
    simp only [h, if_false]

theorem moved_singleton (hx : x ≠ c) : moved env time [c] s x = x :=
  if_neg fun h => hx (List.mem_singleton.1 h.1)

theorem looped_of_not_moves (hnot : ¬ Moves env time [c] s c) (htables : s'.tables = s.tables)
    (htried : s'.tried = s.tried + 2 * [c].countP fun c => Differs s.tables time c) :
    Looped env time [c] s s' := by
  have hstays : ∀ x ∈ s.tables.contacts, moved env time [c] s x = x := by
    intro x _
    by_cases hx : x = c
    · subst hx
      exact if_neg fun h => hnot h.2
    · exact moved_singleton hx
  refine ⟨?_, ?_, ?_, ?_, htried, fun _ => htables⟩
  · rw [htables, List.map_congr_left hstays, List.map_id']
  · intro x hx
    obtain rfl := List.mem_singleton.1 hx
    refine ⟨none, ?_, by simp, by simp [hnot]⟩
    rw [htables]
    exact (List.append_nil _).symm
  · intro id _
    rw [htables]
  · rw [htables]

theorem looped_of_recorded {kept : Option Snapshot}
    (hn : (s.tables.contacts.map (·.id)).Nodup) (hc : c ∈ s.tables.contacts)
    (hmoves : Moves env time [c] s c)
    (h : Recorded env c (latestFields s.tables time c).toChanges s s' kept) :
    Looped env time [c] s s' := by
  have hof : ∀ p ∈ kept, p = nextSnapshot s c env.now := fun p hp => h.snapshot p hp
  have hfiled (id : Uuid) :
      filed s'.tables id = filed s.tables id ++ kept.toList.filter (·.contact == id) := by
    rw [filed, h.tables]
    exact List.filter_append ..
  refine ⟨?_, ?_, ?_, ?_, ?_, fun hstill => absurd hmoves (hstill c (List.mem_singleton_self _))⟩
  · rw [h.tables]
    apply List.map_congr_left
    intro x hx
    by_cases he : x = c
    · subst he
      have hmoved : moved env time [x] s x = x.restored (latestFields s.tables time x) env.now :=
        if_pos ⟨List.mem_singleton_self _, hmoves⟩
      rw [hmoved, ← revised_toChanges]
      exact if_pos (beq_self_eq_true _)
    · have hid : x.id ≠ c.id := fun hid => he (Tables.eq_of_id hn hx hc hid)
      rw [moved_singleton he]
      exact if_neg (by simpa [Contact.revised] using hid)
  · intro x hx
    obtain rfl := List.mem_singleton.1 hx
    refine ⟨kept, ?_, ?_, ?_⟩
    · rw [hfiled, List.filter_eq_self.2]
      intro p hp
      rw [hof p (Option.mem_toList.1 hp)]
      exact beq_self_eq_true _
    · intro p hp
      rw [hof p hp]
      exact ⟨rfl, rfl, rfl⟩
    · rw [turn_head, h.taken]
      exact (and_iff_right hmoves).symm
  · intro id hid
    rw [hfiled, List.filter_eq_nil_iff.2, List.append_nil]
    intro p hp he
    rw [hof p (Option.mem_toList.1 hp), beq_iff_eq] at he
    exact hid (List.mem_singleton.2 he.symm)
  · rw [h.tables]
    rfl
  · rw [h.tried, List.countP_singleton, if_pos (by simpa using hmoves.1)]

/-- What its turn does to a contact. -/
theorem turn_run (env : Conditions) (hd : time.isDated)
    (hn : (s.tables.contacts.map (·.id)).Nodup) (hc : c ∈ s.tables.contacts) :
    ∃ r s', recover (savepoint (restoreTo env time c)) s = .ok r s' ∧
      (r = .ok true ↔ Moves env time [c] s c) ∧ Looped env time [c] s s' := by
  by_cases hdiffers : Differs s.tables time c
  · have hrun := restoreTo_of_other env hd hdiffers
    have htried : s.tried + 2 = s.tried + 2 * [c].countP fun c => Differs s.tables time c := by
      rw [List.countP_singleton, if_pos (by simpa using hdiffers)]
    cases hrec : record env c (latestFields s.tables time c).toChanges s with
    | ok c' s₁ =>
      obtain ⟨htaken, rfl, kept, hs₁⟩ := of_record hrec
      have hmoves : Moves env time [c] s c := ⟨hdiffers, by rwa [turn_head]⟩
      rw [bind_of_ok hrec] at hrun
      exact ⟨_, s₁, recover_of_ok (savepoint_of_ok hrun), by simp [hmoves],
        looped_of_recorded hn hc hmoves hs₁⟩
    | error e s₁ =>
      have hnot : ¬ Moves env time [c] s c := by
        rintro ⟨-, htaken⟩
        rw [turn_head] at htaken
        obtain ⟨_, _, hok, -⟩ := record_of_taken htaken
        rw [hrec] at hok
        cases hok
      rw [bind_of_error hrec] at hrun
      exact ⟨_, _, recover_of_error (savepoint_of_error hrun), by simp [hnot],
        looped_of_not_moves hnot rfl ((record_error hrec).2.trans htried)⟩
  · have hnot : ¬ Moves env time [c] s c := fun h => hdiffers h.1
    have hrun := recover_of_ok (savepoint_of_ok (restoreTo_of_same env hd hdiffers))
    refine ⟨_, s, hrun, by simp [hnot], looped_of_not_moves hnot rfl ?_⟩
    rw [List.countP_singleton, if_neg (by simpa using hdiffers), Nat.mul_zero, Nat.add_zero]

/-! ### One turn after another -/

theorem Looped.ids (h : Looped env time cs s s') :
    s'.tables.contacts.map (·.id) = s.tables.contacts.map (·.id) := by
  rw [h.contacts, List.map_map]
  exact List.map_congr_left fun _ _ => moved_id

theorem id_ne_of_mem (hnew : c.id ∉ cs.map (·.id)) (hx : x ∈ cs) : x.id ≠ c.id :=
  fun he => hnew (he ▸ List.mem_map_of_mem hx)

theorem Looped.other (h : Looped env time [c] s s') (hx : x.id ≠ c.id) :
    filed s'.tables x.id = filed s.tables x.id :=
  h.others x.id fun he => hx (List.mem_singleton.1 he)

theorem Looped.differs_iff (h : Looped env time [c] s s₁) (hnew : c.id ∉ cs.map (·.id))
    (hx : x ∈ cs) : Differs s₁.tables time x ↔ Differs s.tables time x :=
  differs_congr (h.other (id_ne_of_mem hnew hx))

theorem Looped.countP_differs (h : Looped env time [c] s s₁) (hnew : c.id ∉ cs.map (·.id))
    {xs : List Contact} (hxs : ∀ x ∈ xs, x ∈ cs) :
    xs.countP (fun x => Differs s₁.tables time x) = xs.countP fun x => Differs s.tables time x := by
  apply List.countP_congr
  intro x hx
  rw [decide_eq_true_eq, decide_eq_true_eq]
  exact h.differs_iff hnew (hxs x hx)

/-- The turns behind that of the first contact come to the same numbers of writes, whether it is
counted with them or was before. -/
theorem Looped.turn_tried (h : Looped env time [c] s s₁) (hnew : c.id ∉ cs.map (·.id))
    (hx : x ∈ cs) : (turn time cs s₁ x).tried = (turn time (c :: cs) s x).tried := by
  have hcx : c ≠ x := by
    rintro rfl
    exact hnew (List.mem_map_of_mem hx)
  have hsub : ∀ y ∈ cs.takeWhile (· ≠ x), y ∈ cs := fun y hy => (List.takeWhile_sublist _).subset hy
  unfold turn
  rw [List.takeWhile_cons_of_pos (by simpa using hcx)]
  simp only [h.tried, h.countP_differs hnew hsub, List.countP_cons, List.countP_nil]
  omega

theorem Looped.moves_iff (h : Looped env time [c] s s₁) (hnew : c.id ∉ cs.map (·.id))
    (hx : x ∈ cs) : Moves env time cs s₁ x ↔ Moves env time (c :: cs) s x := by
  unfold Moves
  rw [h.differs_iff hnew hx, latestFields_congr (h.other (id_ne_of_mem hnew hx)),
    changeTaken_congr (h.turn_tried hnew hx)]

theorem Looped.snapshotTaken_iff (h : Looped env time [c] s s₁) (hnew : c.id ∉ cs.map (·.id))
    (hx : x ∈ cs) :
    SnapshotTaken env (turn time cs s₁ x) x ↔ SnapshotTaken env (turn time (c :: cs) s x) x :=
  snapshotTaken_congr (h.turn_tried hnew hx) h.ids (h.other (id_ne_of_mem hnew hx))

theorem moves_head : Moves env time (c :: cs) s c ↔ Moves env time [c] s c := by
  unfold Moves
  rw [turn_head, turn_head]

theorem Looped.moved_eq (hnew : c.id ∉ cs.map (·.id)) (h : Looped env time [c] s s₁) (x : Contact) :
    moved env time cs s₁ (moved env time [c] s x) = moved env time (c :: cs) s x := by
  by_cases he : x = c
  · subst he
    -- the contact has had its turn: the rest does not come to it, nor to what became of it
    have hnot : moved env time [x] s x ∉ cs := fun hm => hnew (List.mem_map.2 ⟨_, hm, moved_id⟩)
    rw [moved, if_neg fun h => hnot h.1]
    unfold moved
    simp only [List.mem_cons, true_or, true_and, moves_head]
  · rw [moved_singleton he]
    unfold moved
    by_cases hx : x ∈ cs
    · simp only [hx, List.mem_cons, or_true, true_and, h.moves_iff hnew hx,
        latestFields_congr (h.other (id_ne_of_mem hnew hx))]
    · simp [hx, he]

/-- The turn of one contact and those of the rest, who are others. -/
theorem Looped.cons (hnew : c.id ∉ cs.map (·.id)) (h : Looped env time [c] s s₁)
    (h' : Looped env time cs s₁ s') : Looped env time (c :: cs) s s' := by
  refine ⟨?_, ?_, ?_, ?_, ?_, ?_⟩
  · rw [h'.contacts, h.contacts, List.map_map]
    exact List.map_congr_left fun x _ => h.moved_eq hnew x
  · intro x hx
    rcases List.mem_cons.1 hx with rfl | hx
    · obtain ⟨kept, hkept⟩ := h.added x (List.mem_singleton_self _)
      refine ⟨kept, (h'.others _ hnew).trans hkept.filed, hkept.entry, ?_⟩
      have hhead : Moves env time (x :: cs) s x ↔ Moves env time [x] s x := moves_head
      rw [hkept.kept, hhead, turn_head, turn_head]
    · obtain ⟨kept, hkept⟩ := h'.added x hx
      refine ⟨kept, ?_, hkept.entry, ?_⟩
      · rw [hkept.filed, h.other (id_ne_of_mem hnew hx)]
      · rw [hkept.kept, h.moves_iff hnew hx, h.snapshotTaken_iff hnew hx]
  · intro id hid
    rw [List.map_cons, List.mem_cons, not_or] at hid
    exact (h'.others id hid.2).trans (h.others id (by simpa using hid.1))
  · rw [h'.elsewhere, h.elsewhere]
  · rw [h'.tried, h.tried, h.countP_differs hnew fun _ hx => hx]
    simp only [List.countP_cons, List.countP_nil]
    omega
  · intro hstill
    have hc : s₁.tables = s.tables := by
      apply h.still
      intro x hx
      obtain rfl := List.mem_singleton.1 hx
      exact fun hmoves => hstill x (List.mem_cons_self ..) (moves_head.2 hmoves)
    rw [← hc]
    apply h'.still
    intro x hx
    rw [h.moves_iff hnew hx]
    exact hstill x (List.mem_cons_of_mem _ hx)

theorem restoreEach_cons (env : Conditions) (hd : time.isDated)
    (hn : (s.tables.contacts.map (·.id)).Nodup) (hc : c ∈ s.tables.contacts) (n : Nat) :
    ∃ s', restoreEach env time (c :: cs) n s =
        restoreEach env time cs (if Moves env time [c] s c then n + 1 else n) s' ∧
      Looped env time [c] s s' := by
  obtain ⟨r, s', hstep, hmoves, hs'⟩ := turn_run env hd hn hc
  refine ⟨s', ?_, hs'⟩
  rw [restoreEach, bind_of_ok hstep]
  rcases r with e | changed
  · rw [if_neg fun h => by cases hmoves.2 h]
  · cases changed with
    | false => rw [if_neg fun h => by cases hmoves.2 h]
    | true => rw [if_pos (hmoves.1 rfl)]

theorem Looped.listed (h : Looped env time [c] s s') (hl : Listed s (c :: cs)) :
    Listed s' cs := by
  obtain ⟨hnew, hcs⟩ := List.nodup_cons.1 hl.nodup
  refine ⟨?_, hcs⟩
  intro x hx
  rw [h.contacts]
  refine List.mem_map.2 ⟨x, hl.mem x (List.mem_cons_of_mem _ hx), moved_singleton ?_⟩
  rintro rfl
  exact id_ne_of_mem hnew hx rfl

/-- The loop restores one contact after another, and counts those that get other values. -/
theorem restoreEach_run (env : Conditions) (hd : time.isDated)
    (hn : (s.tables.contacts.map (·.id)).Nodup) (h : Listed s cs) (n : Nat) :
    ∃ s', restoreEach env time cs n s = .ok (n + cs.countP fun c => Moves env time cs s c) s' ∧
      Looped env time cs s s' := by
  induction cs generalizing s n with
  | nil =>
    have hstays : ∀ x ∈ s.tables.contacts, moved env time [] s x = x :=
      fun x _ => if_neg fun h => List.not_mem_nil h.1
    refine ⟨s, rfl, ?_, by simp, fun _ _ => rfl, rfl, rfl, fun _ => rfl⟩
    rw [List.map_congr_left hstays, List.map_id']
  | cons c rest ih =>
    obtain ⟨hnew, -⟩ := List.nodup_cons.1 h.nodup
    have hc := h.mem c (List.mem_cons_self ..)
    obtain ⟨s₁, hstep, hs₁⟩ := restoreEach_cons env hd hn hc n
    obtain ⟨s', hrun, hs'⟩ := ih (hs₁.ids ▸ hn) (hs₁.listed h)
      (if Moves env time [c] s c then n + 1 else n)
    have hcount : rest.countP (fun x => Moves env time rest s₁ x) =
        rest.countP fun x => Moves env time (c :: rest) s x := by
      apply List.countP_congr
      intro x hx
      rw [decide_eq_true_eq, decide_eq_true_eq]
      exact hs₁.moves_iff hnew hx
    refine ⟨s', ?_, hs₁.cons hnew hs'⟩
    rw [hstep, hrun, hcount, List.countP_cons]
    have hhead : Moves env time (c :: rest) s c ↔ Moves env time [c] s c := moves_head
    by_cases hmoves : Moves env time [c] s c
    · simp only [hhead, hmoves, decide_true, if_true]
      rw [Nat.add_assoc, Nat.add_comm 1]
    · simp only [hhead, hmoves, decide_false, Bool.false_eq_true, if_false, Nat.add_zero]

theorem mem_existingAt : c ∈ existingAt t time ↔ c ∈ t.contacts ∧ c.active ∧ c.created ≤ time := by
  unfold existingAt
  rw [mem_sortList, List.mem_filter, Bool.and_eq_true, decide_eq_true_eq]

theorem listed_existingAt (hn : (s.tables.contacts.map (·.id)).Nodup) (time : Instant) :
    Listed s (existingAt s.tables time) :=
  Listed.sorted ⟨fun _ hc => (List.mem_filter.1 hc).1, hn.sublist (List.filter_sublist.map _)⟩ _

/-- Restoring all contacts to a time gives a turn to those in use that existed by then. -/
theorem restoreAll_looped (env : Conditions) (hd : time.isDated)
    (hn : (s.tables.contacts.map (·.id)).Nodup) :
    ∃ s', restoreAll env time s = .ok ((existingAt s.tables time).countP fun c =>
        Moves env time (existingAt s.tables time) s c) s' ∧
      Looped env time (existingAt s.tables time) s s' := by
  obtain ⟨s', hrun, hs'⟩ := restoreEach_run env hd hn (listed_existingAt hn time) 0
  rw [Nat.zero_add] at hrun
  refine ⟨s', ?_, hs'⟩
  unfold restoreAll
  rw [bind_of_ok ((bindInstant_checks time).ok hd s), bind_of_ok (tables_run s)]
  exact hrun

end AddressBook.History
