import AddressBook.Proofs.History.Restoring

/-!
Restoring all contacts to a point in time, against the values that they had then. A snapshot holds
the values before a change but carries the time of the change. So the latest snapshot by a certain
time lags behind by one change, and a contact without a change by then is not restored at all.
-/
namespace AddressBook

open AddressBook.History

/-- The store refuses nothing, and can hold the time. -/
structure Conditions.Serves (env : Conditions) : Prop where
  refusal : ∀ n w, env.refusal n w = none
  dated : env.now.isDated

/-- The clock goes forward from step to step, and the store serves all of them, with one way to
treat texts. -/
structure Smooth (env : Conditions) (steps : List Step) : Prop where
  clock : steps.Pairwise fun x y => x.env.now < y.env.now
  serves : ∀ x ∈ steps, x.env.Serves
  dialect : ∀ x ∈ steps, x.env.dialect = env.dialect

/-- The store at a certain time of a run. -/
def storeAt (steps : List Step) (time : Instant) : Store :=
  Store.run {} (steps.takeWhile fun x => x.env.now ≤ time)

/-- The values before the last of some changes; other values if there are none. -/
def lastBefore (rs : List Revision) (others : Fields) : Fields :=
  match rs with
  | [] => others
  | r :: _ => r.before

/-- A contact's last change by a certain time left its values as they were; without such a change,
its present values are those that it had then. -/
def Unmoved (rs : List Revision) (past present : Fields) : Prop :=
  match rs with
  | [] => present = past
  | r :: _ => r.before = r.after

variable {env env' : Conditions} {time : Instant} {s s' : Store} {c : Contact}
  {steps : List Step}

/-- The store has room for all values of contacts that it holds, earlier ones included. -/
structure Fitting (env : Conditions) (s : Store) : Prop where
  contacts : ∀ c ∈ s.tables.contacts, env.Fits c.fields.values
  snapshots : ∀ p ∈ s.tables.snapshots, env.Fits p.fields.values

theorem Conditions.Fits.congr {ts : List (Option Text)} (h : env'.Fits ts)
    (hd : env'.dialect = env.dialect) : env.Fits ts := by
  intro t ht
  rw [← hd]
  exact h t ht

theorem fitting_move (hd : env'.dialect = env.dialect) (hm : Move env' s s')
    (h : Fitting env s) : Fitting env s' := by
  cases hm with
  | apart ha => exact ⟨ha.contacts ▸ h.contacts, ha.snapshots ▸ h.snapshots⟩
  | created fields upload fits contacts snapshots journal issued fresh =>
    refine ⟨?_, snapshots ▸ h.snapshots⟩
    intro c hc
    rw [contacts, List.mem_append, List.mem_singleton] at hc
    rcases hc with hc | rfl
    · exact h.contacts c hc
    · exact fits.congr hd
  | revised c changes kept mem taken recorded =>
    constructor
    · intro x hx
      rw [recorded.tables] at hx
      obtain rfl | ⟨hx, -⟩ := Tables.of_mem_setContact hx
      · exact taken.2.1.congr hd
      · exact h.contacts x hx
    · intro p hp
      rw [recorded.tables, List.mem_append] at hp
      rcases hp with hp | hp
      · exact h.snapshots p hp
      · obtain rfl := recorded.snapshot p (Option.mem_toList.1 hp)
        exact h.contacts c mem
  | switched c active mem contacts snapshots journal issued =>
    refine ⟨?_, snapshots ▸ h.snapshots⟩
    intro x hx
    rw [contacts] at hx
    obtain rfl | ⟨hx, -⟩ := Tables.of_mem_setContact hx
    · exact h.contacts c mem
    · exact h.contacts x hx

theorem fitting_run (hs : ∀ x ∈ steps, x.env.dialect = env.dialect) :
    Fitting env (Store.run {} steps) :=
  relation_run (P := fun e => e.dialect = env.dialect) (R := fun a b => Fitting env a → Fitting env b)
    (fun _ h => h) (fun _ _ _ h h' => h' ∘ h) (fun _ _ _ hd _ hm h => fitting_move hd hm h)
    numbered_empty hs ⟨by simp, by simp⟩

theorem Fitting.latestFields (h : Fitting env s) (hc : c ∈ s.tables.contacts) :
    env.Fits (latestFields s.tables time c).values := by
  unfold History.latestFields
  cases hf : (s.tables.history c.id).find? (·.taken ≤ time) with
  | none => exact h.contacts c hc
  | some p =>
    have hp := mem_sortList.1 (List.mem_of_find?_eq_some hf)
    exact h.snapshots p (List.mem_filter.1 hp).1

theorem Faithful.mem_history (h : Faithful s) {p : Snapshot} (hp : p ∈ s.tables.history c.id) :
    p.contact = c.id ∧ ∃ r ∈ s.revisions c.id, p.Keeps r := by
  obtain ⟨hp, hpc⟩ := List.mem_filter.1 (mem_sortList.1 hp)
  obtain ⟨r, hr, hkeeps⟩ := h.revision_of_snapshot hp
  rw [beq_iff_eq.1 hpc] at hr
  exact ⟨beq_iff_eq.1 hpc, r, hr, hkeeps⟩

/-- If every change could keep its snapshot, the latest one by a certain time is that of the last
change by then. -/
theorem Faithful.latestFields_eq (h : Faithful s) (hc : c ∈ s.tables.contacts)
    (hk : ∀ r ∈ s.revisions c.id, r.kept) {late early : List Revision}
    (hsplit : s.revisions c.id = late ++ early) (hlate : ∀ r ∈ late, time < r.time)
    (hearly : ∀ r ∈ early, r.time ≤ time) :
    latestFields s.tables time c = lastBefore early c.fields := by
  -- a snapshot that was taken by then is one of an early change
  have hfound : ∀ p ∈ s.tables.history c.id, p.taken ≤ time → ∃ r ∈ early, p.Keeps r := by
    intro p hp ht
    obtain ⟨-, r, hr, hkeeps⟩ := h.mem_history hp
    rw [hsplit, List.mem_append] at hr
    rcases hr with hr | hr
    · rw [hkeeps.taken] at ht
      exact absurd ht (Int.not_le.2 (hlate r hr))
    · exact ⟨r, hr, hkeeps⟩
  unfold latestFields
  cases early with
  | nil =>
    have hnone : (s.tables.history c.id).find? (·.taken ≤ time) = none := by
      apply List.find?_eq_none.2
      intro p hp ht
      obtain ⟨r, hr, -⟩ := hfound p hp (by simpa using ht)
      cases hr
    rw [hnone]
    rfl
  | cons r rest =>
    have hr : r ∈ s.revisions c.id := hsplit ▸ List.mem_append_right _ (List.mem_cons_self ..)
    obtain ⟨p, hp, hpc, hkeeps⟩ := h.snapshot_of_revision hr (hk r hr)
    have hmem : p ∈ s.tables.history c.id :=
      mem_sortList.2 (List.mem_filter.2 ⟨hp, beq_iff_eq.2 hpc⟩)
    have hpt : decide (p.taken ≤ time) = true := by
      have := hearly r (List.mem_cons_self ..)
      rw [decide_eq_true_eq, hkeeps.taken]
      exact this
    cases hf : (s.tables.history c.id).find? (·.taken ≤ time) with
    | none =>
      have := List.find?_eq_none.1 hf p hmem
      exact absurd hpt this
    | some q =>
      have hqp := version_le_of_find? (history_sorted _ _) hf hmem hpt
      have hqt : q.taken ≤ time := by simpa using List.find?_some hf
      obtain ⟨r', hr', hkeeps'⟩ := hfound q (List.mem_of_find?_eq_some hf) hqt
      rw [hkeeps.version, hkeeps'.version] at hqp
      obtain ⟨f₀, hd⟩ := h.traced c hc
      have hdesc := hd.descending
      rw [hsplit] at hdesc
      obtain ⟨-, hdesc, -⟩ := List.pairwise_append.1 hdesc
      rcases List.mem_cons.1 hr' with rfl | hr'
      · exact hkeeps'.fields
      · have := (List.pairwise_cons.1 hdesc).1 r' hr'
        omega

theorem kept_run (h : Smooth env steps) (id : Uuid) :
    ∀ r ∈ (Store.run {} steps).revisions id, r.kept := by
  intro r hr
  obtain ⟨x, hx, hm⟩ := made_of_revision hr
  obtain ⟨n, -, hkept⟩ := hm.kept
  exact hkept.2 ⟨(h.serves x hx).refusal _ _, (h.serves x hx).dated⟩

theorem time_le_storeAt (steps : List Step) (id : Uuid) :
    ∀ r ∈ (storeAt steps time).revisions id, r.time ≤ time := by
  intro r hr
  obtain ⟨x, hx, hm⟩ := made_of_revision hr
  rw [hm.time]
  simpa using List.all_eq_true.1 List.all_takeWhile x hx

theorem lt_of_mem_dropWhile (h : steps.Pairwise fun x y => x.env.now < y.env.now) :
    ∀ x ∈ steps.dropWhile (fun x => x.env.now ≤ time), time < x.env.now := by
  induction steps with
  | nil => simp
  | cons y rest ih =>
    obtain ⟨hy, hrest⟩ := List.pairwise_cons.1 h
    intro x hx
    by_cases hyt : y.env.now ≤ time
    · rw [List.dropWhile_cons_of_pos (by simpa using hyt)] at hx
      exact ih hrest x hx
    · rw [List.dropWhile_cons_of_neg (by simpa using hyt)] at hx
      have hlt : time < y.env.now := Int.not_le.1 hyt
      rcases List.mem_cons.1 hx with rfl | hx
      · exact hlt
      · exact Int.lt_trans hlt (hy x hx)

/-- All that happens after a certain time carries a later one. -/
theorem continues_storeAt (h : Smooth env steps) :
    Continues (fun t => time < t) (storeAt steps time) (Store.run {} steps) := by
  have hrun : Store.run {} steps =
      (storeAt steps time).run (steps.dropWhile fun x => x.env.now ≤ time) := by
    rw [storeAt, ← run_append, List.takeWhile_append_dropWhile]
  rw [hrun]
  exact continues_run (numbered_run numbered_empty _) (lt_of_mem_dropWhile h.clock)

/-- What restoring to a time gives to each contact in use that existed then, and when these are the
values that it had then. -/
theorem restoreAll_values (h : Smooth env steps) (he : env.Serves) (ht : time.isDated) :
    ∃ m s', (Operation.restoreAll time).perform env (Store.run {} steps) = .ok (.restored m) s' ∧
      ∀ c ∈ (Store.run {} steps).tables.contacts, c.active → c.created ≤ time →
        fitsSigned (c.version + 1) → ∃ d ∈ (storeAt steps time).tables.contacts, d.id = c.id ∧
          ∃ c' ∈ s'.tables.contacts, c'.id = c.id ∧
            c'.fields = lastBefore ((storeAt steps time).revisions c.id) c.fields ∧
            (c'.fields = d.fields ↔
              Unmoved ((storeAt steps time).revisions c.id) d.fields c.fields) := by
  have hs : Faithful (Store.run {} steps) := faithful_run faithful_empty
  have hthen : Faithful (storeAt steps time) := faithful_run faithful_empty
  obtain ⟨m, s', hrun, hvalues⟩ := restoreAll_run he.refusal ht hs.numbered
  refine ⟨m, s', hrun, ?_⟩
  intro c hc hactive hcreated hroom
  obtain ⟨d, hd, hsucc⟩ | ⟨-, hlate⟩ := (continues_storeAt h).origin c hc
  case inr => exact absurd hcreated (Int.not_le.2 hlate)
  obtain ⟨c', hc', hid, hfields⟩ := hvalues c hc hactive hcreated
    ⟨(fitting_run h.dialect).latestFields hc, hroom⟩
  obtain ⟨rs, hsplit, -, htimes⟩ := hsucc.path
  rw [← hsucc.id] at hsplit
  have hlast := hs.latestFields_eq hc (kept_run h c.id) hsplit htimes
    (time_le_storeAt steps c.id)
  refine ⟨d, hd, hsucc.id.symm, c', hc', hid, hfields.trans hlast, ?_⟩
  rw [hfields, hlast]
  obtain ⟨f₀, htraced⟩ := hthen.traced d hd
  rw [← hsucc.id] at htraced
  cases hrs : (storeAt steps time).revisions c.id with
  | nil => rfl
  | cons r rest =>
    rw [hrs] at htraced
    rw [htraced.eq_after]
    rfl

theorem serves_fair {now : Instant} (h : now.isDated) : (Conditions.fair now).Serves :=
  ⟨fun _ _ => rfl, h⟩

theorem smooth_renamedOnce : Smooth (.fair 4) renamedOnce := by
  refine ⟨by decide, ?_, by simp [renamedOnce, Conditions.fair]⟩
  simp only [renamedOnce, List.forall_mem_cons]
  exact ⟨serves_fair (by decide), serves_fair (by decide), by simp⟩

theorem restoreAll_renamedOnce :
    ∃ m s', (Operation.restoreAll 3).perform (.fair 4) (Store.run {} renamedOnce) =
      .ok (.restored m) s' ∧ ∃ c' ∈ s'.tables.contacts, c'.fields = { name := some ['a'] } := by
  have hdated : Instant.isDated 3 := by decide
  obtain ⟨m, s', hrun, hvalues⟩ :=
    restoreAll_values smooth_renamedOnce (serves_fair (by decide)) hdated
  obtain ⟨_, -, -, c', hc', -, hfields, -⟩ := hvalues
    ⟨.numbered 0xc0 1, { name := some ['b'] }, 2, true, none, 1, 2⟩ (by decide) rfl (by decide)
    (by decide)
  have hbefore : lastBefore ((storeAt renamedOnce 3).revisions (.numbered 0xc0 1))
      { name := some ['b'] } = { name := some ['a'] } := by decide
  exact ⟨m, s', hrun, c', hc', hfields.trans hbefore⟩

/-- Restoring to a time after a change takes the change back. -/
theorem restoreAll_lags : ¬ ∀ (env : Conditions) (steps : List Step) (time : Instant) (m : Nat)
    (s' : Store), Smooth env steps → env.Serves → time.isDated →
    (Operation.restoreAll time).perform env (Store.run {} steps) = .ok (.restored m) s' →
    ∀ c ∈ (Store.run {} steps).tables.contacts, c.active → c.created ≤ time →
      ∀ d ∈ (storeAt steps time).tables.contacts, d.id = c.id →
        ∀ c' ∈ s'.tables.contacts, c'.id = c.id → c'.fields = d.fields := by
  intro h
  have hlags := h (.fair 4) renamedOnce 3 1 _ smooth_renamedOnce (serves_fair (by decide))
    (by decide) rfl
    ⟨.numbered 0xc0 1, { name := some ['b'] }, 2, true, none, 1, 2⟩ (by decide) rfl (by decide)
    ⟨.numbered 0xc0 1, { name := some ['b'] }, 2, true, none, 1, 2⟩ (by decide) rfl
    ⟨.numbered 0xc0 1, { name := some ['a'] }, 3, true, none, 1, 4⟩ (by decide) rfl
  exact absurd hlags (by decide)

end AddressBook
