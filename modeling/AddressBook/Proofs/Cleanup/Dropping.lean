import AddressBook.Proofs.Service.Operations

/-!
The pass of a cleanup that drops duplicates. It tries one write for each duplicate, in the order of
their age. Those whose write is refused are counted and stay, the others are put out of use.
-/
namespace AddressBook.Cleanup

open AddressBook.Action

/-- A contact that is put out of use. -/
def retired (now : Instant) (c : Contact) : Contact := { c with active := false, updated := now }

/-- The e-mail address by which contacts are told apart, empty if there is none. -/
def mailOf (c : Contact) : Text := email (c.fields.email.getD [])

/-- The contacts of a list whose e-mail address was seen already. -/
def repeats : List Text → List Contact → List Contact
  | _, [] => []
  | seen, c :: rest =>
    if (mailOf c).isEmpty then repeats seen rest
    else if seen.contains (mailOf c) then c :: repeats seen rest
    else repeats (mailOf c :: seen) rest

/-- What the store says to the write of a duplicate. One write is tried for each duplicate. -/
def verdict (env : Conditions) (s : Store) (ds : List Contact) (c : Contact) : Option Text :=
  env.refusal (s.tried + ds.idxOf c) (.updateContact c.id)

/-- Duplicates with what the store says to them. -/
def judged (env : Conditions) (s : Store) (ds : List Contact) : List (Contact × Option Text) :=
  ds.map fun c => (c, verdict env s ds c)

/-- The line about a duplicate in the report of a run. -/
def dropLine (c : Contact) : Option Text → Text
  | none => Text.ofString "Removed duplicate contact " ++ c.id.written
      ++ Text.ofString " (email: " ++ mailOf c ++ Text.ofString ")"
  | some reason => errorLine "removing duplicate" c.id (.storage reason)

/-- The report of a run. -/
def dropReport (js : List (Contact × Option Text)) : Report :=
  ⟨js.countP fun j => j.2.isNone, js.countP fun j => j.2.isSome, js.map fun j => dropLine j.1 j.2⟩

/-- A contact after a run: a duplicate is put out of use, unless its write was refused. -/
def dropped (env : Conditions) (s : Store) (ds : List Contact) (c : Contact) : Contact :=
  if c ∈ ds ∧ verdict env s ds c = none then retired env.now c else c

/-- The store after a run. -/
def thinned (env : Conditions) (s : Store) (ds : List Contact) : Store :=
  { s with
    tables := { s.tables with contacts := s.tables.contacts.map (dropped env s ds) }
    tried := s.tried + ds.length }

/-- Drops every contact of a list. -/
def dropAll (env : Conditions) : List Contact → Report → Action Report
  | [], r => return r
  | c :: rest, r => do dropAll env rest (← dropDuplicate env r c (mailOf c))

variable {env : Conditions} {s : Store} {c d : Contact} {cs ds : List Contact} {seen : List Text}

/-! ### Which contacts are duplicates -/

theorem repeats_sublist (seen : List Text) (cs : List Contact) :
    (repeats seen cs).Sublist cs := by
  induction cs generalizing seen with
  | nil => exact .refl _
  | cons x rest ih =>
    rw [repeats]
    split
    · exact (ih seen).cons x
    · split
      · exact (ih seen).cons_cons x
      · exact (ih _).cons x

theorem of_mem_repeats (h : c ∈ repeats seen cs) : c ∈ cs ∧ mailOf c ≠ [] := by
  induction cs generalizing seen with
  | nil => cases h
  | cons x rest ih =>
    have hrest {seen : List Text} (h : c ∈ repeats seen rest) : c ∈ x :: rest ∧ mailOf c ≠ [] :=
      (ih h).imp_left (List.mem_cons_of_mem _)
    rw [repeats] at h
    split at h
    next => exact hrest h
    next hblank =>
      split at h
      next =>
        rcases List.mem_cons.1 h with rfl | h
        · exact ⟨List.mem_cons_self .., by simpa using hblank⟩
        · exact hrest h
      next => exact hrest h

theorem mem_of_repeats (h : c ∈ repeats seen cs) : c ∈ cs := (repeats_sublist ..).mem h

theorem mem_withEmail {t : Tables} :
    c ∈ withEmail t ↔ c ∈ t.contacts ∧ c.active ∧ c.fields.email.isSome := by
  unfold withEmail
  rw [mem_sortList, List.mem_filter, Bool.and_eq_true]

theorem withEmail_listed (hn : (s.tables.contacts.map (·.id)).Nodup) :
    Listed s (withEmail s.tables) :=
  Listed.sorted ⟨fun _ hc => (List.mem_filter.1 hc).1, hn.sublist (List.filter_sublist.map _)⟩ _

/-! ### The run over them -/

/-- The contacts that are passed over do not count. -/
theorem dropEach_eq (env : Conditions) (cs : List Contact) (seen : List Text) (r : Report) :
    dropEach env cs seen r = dropAll env (repeats seen cs) r := by
  induction cs generalizing seen r with
  | nil => rfl
  | cons c rest ih =>
    have hturn : dropEach env (c :: rest) seen r =
      if (mailOf c).isEmpty then dropEach env rest seen r
      else if seen.contains (mailOf c) then do
        dropEach env rest seen (← dropDuplicate env r c (mailOf c))
      else dropEach env rest (mailOf c :: seen) r := rfl
    rw [hturn, repeats]
    simp only [ih]
    split
    · rfl
    · split <;> rfl

theorem dropped_id (c : Contact) : (dropped env s ds c).id = c.id := by
  unfold dropped
  split <;> rfl

theorem thinned_ids :
    (thinned env s ds).tables.contacts.map (·.id) = s.tables.contacts.map (·.id) := by
  unfold thinned
  rw [List.map_map]
  exact List.map_congr_left fun c _ => dropped_id c

theorem verdict_head : verdict env s (c :: ds) c = env.refusal s.tried (.updateContact c.id) := by
  rw [verdict, List.idxOf_cons_self, Nat.add_zero]

/-- The writes of the others are tried one later. -/
theorem verdict_tail (hne : c ≠ d) :
    verdict env (thinned env s [d]) ds c = verdict env s (d :: ds) c := by
  have hplace : (d :: ds).idxOf c = ds.idxOf c + 1 := by
    rw [List.idxOf_cons, beq_false_of_ne hne.symm, cond_false]
  have htried : s.tried + 1 + ds.idxOf c = s.tried + (ds.idxOf c + 1) := by omega
  unfold verdict
  rw [hplace, ← htried]
  rfl

/-- Where all writes are refused, nothing is written. -/
theorem thinned_of_refused (h : ∀ c ∈ ds, verdict env s ds c ≠ none) :
    thinned env s ds = { s with tried := s.tried + ds.length } := by
  have hstays : ∀ c ∈ s.tables.contacts, dropped env s ds c = c :=
    fun c _ => if_neg fun hc => h c hc.1 hc.2
  rw [thinned, List.map_congr_left hstays, List.map_id']

/-! #### One duplicate -/

theorem thinned_written (hn : (s.tables.contacts.map (·.id)).Nodup) (hc : c ∈ s.tables.contacts)
    (hr : env.refusal s.tried (.updateContact c.id) = none) :
    thinned env s [c] =
      { s with tables := s.tables.setContact (retired env.now c), tried := s.tried + 1 } := by
  have hturn : ∀ x ∈ s.tables.contacts, dropped env s [c] x =
      if x.id == (retired env.now c).id then retired env.now c else x := by
    intro x hx
    by_cases he : x = c
    · subst he
      rw [dropped, if_pos ⟨List.mem_singleton_self _, verdict_head.trans hr⟩]
      exact (if_pos (beq_self_eq_true _)).symm
    · have hid : x.id ≠ c.id := fun hid => he (Tables.eq_of_id hn hx hc hid)
      rw [dropped, if_neg fun h => he (List.mem_singleton.1 h.1)]
      exact (if_neg (by simpa [retired] using hid)).symm
  unfold thinned
  rw [List.map_congr_left hturn]
  rfl

theorem setActive_run (env : Conditions) (hn : (s.tables.contacts.map (·.id)).Nodup)
    (hc : c ∈ s.tables.contacts) (hactive : c.active) : Contacts.setActive env c.id false s =
      match env.refusal s.tried (.updateContact c.id) with
      | none => .ok (retired env.now c)
        { s with tables := s.tables.setContact (retired env.now c), tried := s.tried + 1 }
      | some reason => .error (.storage reason) { s with tried := s.tried + 1 } := by
  unfold Contacts.setActive
  rw [bind_of_ok (Contacts.get_of_mem hn hc), bind_run, attempt_run]
  cases env.refusal s.tried (.updateContact c.id) with
  | none => simp only [hactive]; rfl
  | some reason => rfl

/-- The turn of a duplicate. -/
theorem dropDuplicate_run (env : Conditions) (r : Report)
    (hn : (s.tables.contacts.map (·.id)).Nodup) (hc : c ∈ s.tables.contacts) (hactive : c.active) :
    dropDuplicate env r c (mailOf c) s =
      .ok (r.merge (dropReport (judged env s [c]))) (thinned env s [c]) := by
  have hset := setActive_run env hn hc hactive
  unfold dropDuplicate
  cases hr : env.refusal s.tried (.updateContact c.id) with
  | none =>
    rw [hr] at hset
    rw [bind_of_ok (recover_of_ok (savepoint_of_ok hset)), thinned_written hn hc hr]
    simp [dropReport, dropLine, judged, verdict_head, hr, Report.merge, Report.success]
  | some reason =>
    rw [hr] at hset
    have hrefused : ∀ x ∈ [c], verdict env s [c] x ≠ none := by
      simp [verdict_head, hr]
    rw [bind_of_ok (recover_of_error (savepoint_of_error hset)), thinned_of_refused hrefused]
    simp [dropReport, dropLine, judged, verdict_head, hr, Report.merge, Report.failure]

/-! #### One after another -/

theorem thinned_listed (hl : Listed s (c :: ds)) : Listed (thinned env s [c]) ds := by
  obtain ⟨hnew, hds⟩ := List.nodup_cons.1 hl.nodup
  refine ⟨fun x hx => ?_, hds⟩
  refine List.mem_map.2 ⟨x, hl.mem x (List.mem_cons_of_mem _ hx), if_neg fun h => ?_⟩
  obtain rfl := List.mem_singleton.1 h.1
  exact hnew (List.mem_map_of_mem hx)

theorem thinned_cons (hl : Listed s (c :: ds)) :
    thinned env (thinned env s [c]) ds = thinned env s (c :: ds) := by
  obtain ⟨hnew, -⟩ := List.nodup_cons.1 hl.nodup
  have hturns : ∀ x ∈ s.tables.contacts,
      dropped env (thinned env s [c]) ds (dropped env s [c] x) = dropped env s (c :: ds) x := by
    intro x hx
    by_cases he : x = c
    · subst he
      -- what has become of the contact has its identifier, which no other on the list has
      have hout : dropped env s [x] x ∉ ds := fun hmem =>
        hnew (List.mem_map.2 ⟨_, hmem, dropped_id x⟩)
      rw [dropped, if_neg fun h => hout h.1]
      simp only [dropped, List.mem_cons_self, verdict_head]
    · have hstays : dropped env s [c] x = x := if_neg fun h => he (List.mem_singleton.1 h.1)
      rw [hstays]
      simp only [dropped, verdict_tail he, List.mem_cons, he, false_or]
  have htried : s.tried + [c].length + ds.length = s.tried + (c :: ds).length := by
    simp only [List.length_cons, List.length_nil]
    omega
  have hcontacts : (thinned env s [c]).tables.contacts.map (dropped env (thinned env s [c]) ds) =
      s.tables.contacts.map (dropped env s (c :: ds)) :=
    List.map_map.trans (List.map_congr_left hturns)
  calc thinned env (thinned env s [c]) ds
      = { s with
          tables := { s.tables with
            contacts :=
              (thinned env s [c]).tables.contacts.map (dropped env (thinned env s [c]) ds) }
          tried := s.tried + [c].length + ds.length } := rfl
    _ = thinned env s (c :: ds) := by
      rw [hcontacts, htried]
      rfl

theorem judged_cons (hnew : c ∉ ds) :
    judged env s (c :: ds) = judged env s [c] ++ judged env (thinned env s [c]) ds := by
  have htail : ds.map (fun x => (x, verdict env s (c :: ds) x)) =
      judged env (thinned env s [c]) ds := by
    apply List.map_congr_left
    intro x hx
    have hne : x ≠ c := fun he => hnew (he ▸ hx)
    rw [verdict_tail hne]
  have hhead : verdict env s [c] c = verdict env s (c :: ds) c := by rw [verdict_head, verdict_head]
  change (c, verdict env s (c :: ds) c) :: ds.map (fun x => (x, verdict env s (c :: ds) x)) = _
  rw [htail, ← hhead]
  rfl

theorem dropReport_append (js js' : List (Contact × Option Text)) :
    dropReport (js ++ js') = (dropReport js).merge (dropReport js') := by
  simp only [dropReport, Report.merge, List.countP_append, List.map_append]

theorem dropReport_cleaned : (dropReport (judged env s ds)).cleaned =
    ds.countP fun c => (verdict env s ds c).isNone := List.countP_map ..

theorem dropReport_errors : (dropReport (judged env s ds)).errors =
    ds.countP fun c => (verdict env s ds c).isSome := List.countP_map ..

theorem Report.merge_assoc (a b c : Report) : (a.merge b).merge c = a.merge (b.merge c) := by
  simp only [Report.merge, Nat.add_assoc, List.append_assoc]

/-- A run over duplicates. -/
theorem dropAll_run (env : Conditions) (r : Report) (hn : (s.tables.contacts.map (·.id)).Nodup)
    (hl : Listed s ds) (hactive : ∀ c ∈ ds, c.active) :
    dropAll env ds r s = .ok (r.merge (dropReport (judged env s ds))) (thinned env s ds) := by
  induction ds generalizing s r with
  | nil =>
    rw [thinned_of_refused fun _ hc => absurd hc List.not_mem_nil]
    simp [dropAll, dropReport, judged, Report.merge]
  | cons c rest ih =>
    have hturn := dropDuplicate_run env r hn (hl.mem c (List.mem_cons_self ..))
      (hactive c (List.mem_cons_self ..))
    have hn₁ : ((thinned env s [c]).tables.contacts.map (·.id)).Nodup := by rwa [thinned_ids]
    have hrest := ih (r.merge (dropReport (judged env s [c]))) hn₁ (thinned_listed hl) fun x hx =>
      hactive x (List.mem_cons_of_mem _ hx)
    have hnew : c ∉ rest := fun hc => (List.nodup_cons.1 hl.nodup).1 (List.mem_map_of_mem hc)
    rw [dropAll, bind_of_ok hturn, hrest, thinned_cons hl, Report.merge_assoc, ← dropReport_append,
      ← judged_cons hnew]

theorem duplicates_run (env : Conditions) (hn : (s.tables.contacts.map (·.id)).Nodup) :
    duplicates env s = .ok (dropReport (judged env s (repeats [] (withEmail s.tables))))
      (thinned env s (repeats [] (withEmail s.tables))) := by
  have hl := withEmail_listed hn
  have hsub := repeats_sublist [] (withEmail s.tables)
  have hrun := dropAll_run env {} hn
    ⟨fun c hc => hl.mem c (hsub.mem hc), hl.nodup.sublist (hsub.map _)⟩
    fun c hc => (mem_withEmail.1 (hsub.mem hc)).2.1
  unfold duplicates
  rw [bind_of_ok (tables_run s), dropEach_eq, hrun]
  simp [Report.merge]

end AddressBook.Cleanup
