import AddressBook.Proofs.History.PointInTime

/-!
Restoring all contacts to a time twice in a row. The first restoring files snapshots of its own. If
the time lies before it, these come too late to be found, and the second one has nothing to do. If
not, they are the latest ones by then, and the second restoring takes the first one back.
-/
namespace AddressBook.History

variable {env env' : Conditions} {time : Instant} {s s₁ s₂ : Store} {t t₁ t₂ : Tables} {c : Contact}
  {kept : List Snapshot}

theorem Returns.dialect (h : Returns env' t time c) (hd : env'.dialect = env.dialect) :
    Returns env t time c :=
  ⟨h.differs, h.restorable.fits.congr hd, h.restorable.room⟩

theorem returned_fields (h : Returns env t time c) :
    (returned env t time c).fields = latestFields t time c := by
  rw [returned, if_pos h]
  rfl

/-- The contacts that a second restoring comes to are those of the first one. -/
theorem Restored.existingAt_perm (h : Restored env time (existingAt t time) t t₁) :
    (existingAt t₁ time).Perm ((existingAt t time).map (returned env t time)) := by
  have hdue (x : Contact) :
      (if x ∈ existingAt t time then returned env t time x else x).active = x.active ∧
      (if x ∈ existingAt t time then returned env t time x else x).created = x.created := by
    split <;> simp
  have hfilter : t₁.contacts.filter (fun c => c.active && decide (c.created ≤ time)) =
      (t.contacts.filter fun c => c.active && decide (c.created ≤ time)).map
        (returned env t time) := by
    rw [h.contacts, List.filter_map]
    simp only [Function.comp_def, hdue]
    apply List.map_congr_left
    intro x hx
    exact if_pos (mem_sortList.2 hx)
  have hfirst : (existingAt t₁ time).Perm _ := sortList_perm _ _
  rw [hfilter] at hfirst
  exact hfirst.trans ((sortList_perm _ _).symm.map _)

/-! ### The time lies before the first restoring -/

theorem find?_history (t : Tables) (id : Uuid) : (t.history id).find? (·.taken ≤ time) =
    (sortList (fun a b => decide (b.version ≤ a.version))
      ((filed t id).filter (·.taken ≤ time))).head? := by
  rw [← List.head?_filter]
  exact congrArg List.head? (filter_sortList listing_total listing_trans _ _)

/-- Snapshots that were taken after the time are not found. -/
theorem Refiled.find?_of_lt (h : Refiled env time c t t₁ kept) (hlt : time < env.now) :
    (t₁.history c.id).find? (·.taken ≤ time) = (t.history c.id).find? (·.taken ≤ time) := by
  have hlate : kept.filter (·.taken ≤ time) = [] := by
    apply List.filter_eq_nil_iff.2
    intro p hp
    obtain ⟨-, -, htaken⟩ := h.entry p hp
    rw [htaken, decide_eq_true_eq]
    exact Int.not_le.2 hlt
  rw [find?_history, find?_history, h.filed, List.filter_append, hlate, List.append_nil]

/-- A contact that got values has them for good. -/
theorem Refiled.latest_of_lt (h : Refiled env time c t t₁ kept) (hlt : time < env.now)
    (hc : Returns env t time c) :
    latestFields t₁ time (returned env t time c) = (returned env t time c).fields := by
  have hdiffers := hc.differs
  rw [returned_fields hc]
  unfold latestFields at hdiffers ⊢
  rw [returned_id, h.find?_of_lt hlt]
  cases hf : (t.history c.id).find? (·.taken ≤ time) with
  | some p => rfl
  | none =>
    rw [hf] at hdiffers
    exact absurd rfl hdiffers

/-- A contact that got no other values gets none later on. -/
theorem Refiled.not_returns (h : Refiled env time c t t₁ kept) (hd : env'.dialect = env.dialect)
    (hc : ¬ Returns env t time c) : ¬ Returns env' t₁ time (returned env t time c) := by
  have hnone : kept = [] := by
    by_cases hk : kept = []
    · exact hk
    · exact absurd (h.kept.1 hk).1 hc
  have hfiled := h.filed
  rw [hnone, List.append_nil] at hfiled
  rw [returned, if_neg hc, returns_congr hfiled]
  exact fun hr => hc (hr.dialect hd)

theorem Refiled.not_returns_of_lt (h : Refiled env time c t t₁ kept)
    (hd : env'.dialect = env.dialect) (hlt : time < env.now) :
    ¬ Returns env' t₁ time (returned env t time c) := by
  by_cases hc : Returns env t time c
  · exact fun hr => hr.differs (h.latest_of_lt hlt hc)
  · exact h.not_returns hd hc

/-! ### The time does not lie before the first restoring -/

/-- There is room for whatever a store holds, and for two more versions of each contact. -/
structure Roomy (env : Conditions) (s : Store) : Prop where
  fitting : Fitting env s
  versions : ∀ c ∈ s.tables.contacts, fitsSigned (c.version + 2)

theorem fileable (he : env.Serves) (h : Faithful s) (hroom : Roomy env s)
    (hc : c ∈ s.tables.contacts) : Fileable env s.tables c := by
  refine ⟨he.dated, fitsSigned_of_le (hroom.versions c hc) (h.one_le_version hc) (by omega), ?_⟩
  intro p hp
  obtain ⟨hp, hpc⟩ := List.mem_filter.1 hp
  have := h.version_lt hc hp (beq_iff_eq.1 hpc)
  omega

/-- The values that a contact had before are those of its latest snapshot now. -/
theorem Refiled.latest_of_le (h : Refiled env time c s.tables t₁ kept) (he : env.Serves)
    (hs : Faithful s) (hroom : Roomy env s) (hle : env.now ≤ time) (hc : c ∈ s.tables.contacts)
    (hr : Returns env s.tables time c) :
    latestFields t₁ time (returned env s.tables time c) = c.fields := by
  have hkept := h.kept.2 ⟨hr, fileable he hs hroom hc⟩
  obtain ⟨p, rfl⟩ : ∃ p, kept = [p] := by
    apply List.length_eq_one_iff.1
    have := List.length_pos_iff.2 hkept
    have := h.single
    omega
  obtain ⟨hv, hf, ht⟩ := h.entry p (List.mem_singleton_self _)
  -- the new snapshot has a higher version than all those before
  have hfirst : t₁.history c.id = p :: s.tables.history c.id := by
    refine (congrArg (sortList _) h.filed).trans (sortList_concat ?_)
    intro q hq
    obtain ⟨hq, hqc⟩ := List.mem_filter.1 hq
    have := hs.version_lt hc hq (beq_iff_eq.1 hqc)
    rw [decide_eq_false_iff_not]
    omega
  have hfound : (t₁.history c.id).find? (·.taken ≤ time) = some p := by
    rw [hfirst]
    apply List.find?_cons_of_pos
    rwa [ht, decide_eq_true_eq]
  unfold latestFields
  rw [returned_id, hfound]
  exact hf

theorem Refiled.returns_of_le (h : Refiled env time c s.tables t₁ kept) (he : env.Serves)
    (hd : env'.dialect = env.dialect) (hs : Faithful s) (hroom : Roomy env s)
    (hle : env.now ≤ time) (hc : c ∈ s.tables.contacts) :
    Returns env' t₁ time (returned env s.tables time c) ↔ Returns env s.tables time c := by
  refine ⟨fun hr => ?_, fun hr => ?_⟩
  · by_cases hfirst : Returns env s.tables time c
    · exact hfirst
    · exact absurd hr (h.not_returns hd hfirst)
  · have hlatest := h.latest_of_le he hs hroom hle hc hr
    refine ⟨?_, ?_, ?_⟩
    · rw [hlatest, returned_fields hr]
      exact Ne.symm hr.differs
    · rw [hlatest]
      exact (hroom.fitting.contacts c hc).congr hd.symm
    · have hv := hroom.versions c hc
      rw [returned, if_pos hr]
      rw [show c.version + 2 = c.version + 1 + 1 by omega] at hv
      exact hv

/-! ### Both restorings -/

/-- A second restoring counts what a test of its contacts as they were before the first one says. -/
theorem Restored.returnCount_eq (h : Restored env time (existingAt t time) t t₁) {p : Contact → Bool}
    (hp : ∀ c ∈ existingAt t time, p c ↔ Returns env' t₁ time (returned env t time c)) :
    returnCount env' t₁ time = (existingAt t time).countP p := by
  rw [returnCount, h.existingAt_perm.countP_eq, List.countP_map]
  apply List.countP_congr
  intro c hc
  rw [hp c hc, Function.comp_apply, decide_eq_true_eq]

theorem Restored.settled (h : Restored env time (existingAt t time) t t₁)
    (hc : ∀ c ∈ existingAt t time, ¬ Returns env' t₁ time (returned env t time c)) :
    ∀ c ∈ existingAt t₁ time, ¬ Returns env' t₁ time c := by
  intro c hmem
  obtain ⟨x, hx, rfl⟩ := List.mem_map.1 (h.existingAt_perm.mem_iff.1 hmem)
  exact hc x hx

/-- If nothing is left to do after the first restoring, the second one does nothing. -/
theorem Restored.fixed (h : Restored env time (existingAt t time) t t₁)
    (h' : Restored env' time (existingAt t₁ time) t₁ t₂)
    (hc : ∀ c ∈ existingAt t time, ¬ Returns env' t₁ time (returned env t time c)) :
    returnCount env' t₁ time = 0 ∧ t₂ = t₁ := by
  have hsettled := h.settled hc
  refine ⟨List.countP_eq_zero.2 ?_, h'.still hsettled⟩
  intro c hmem
  simpa using hsettled c hmem

/-- If each contact that got other values gets them taken back, all end up with those they had. -/
theorem Restored.undone (h : Restored env time (existingAt t time) t t₁)
    (h' : Restored env' time (existingAt t₁ time) t₁ t₂)
    (hback : ∀ c ∈ existingAt t time, Returns env t time c →
      latestFields t₁ time (returned env t time c) = c.fields ∧
        Returns env' t₁ time (returned env t time c))
    (hstay : ∀ c ∈ existingAt t time, ¬ Returns env t time c →
      ¬ Returns env' t₁ time (returned env t time c)) :
    ∀ c ∈ t.contacts, ∃ c' ∈ t₂.contacts, c'.id = c.id ∧ c'.fields = c.fields := by
  intro c hc
  by_cases hex : c ∈ existingAt t time
  · have h₁ : returned env t time c ∈ existingAt t₁ time :=
      h.existingAt_perm.mem_iff.2 (List.mem_map_of_mem hex)
    refine ⟨returned env' t₁ time (returned env t time c), ?_, by simp, ?_⟩
    · rw [h'.contacts]
      exact List.mem_map.2 ⟨_, (mem_existingAt.1 h₁).1, if_pos h₁⟩
    · by_cases hr : Returns env t time c
      · obtain ⟨hlatest, hr'⟩ := hback c hex hr
        rw [returned_fields hr', hlatest]
      · rw [returned, if_neg (hstay c hex hr), returned, if_neg hr]
  · have h₁ : c ∈ t₁.contacts := by
      rw [h.contacts]
      exact List.mem_map.2 ⟨c, hc, if_neg hex⟩
    have hex₁ : c ∉ existingAt t₁ time := by
      intro hmem
      exact hex (mem_existingAt.2 ⟨hc, (mem_existingAt.1 hmem).2⟩)
    refine ⟨c, ?_, rfl, rfl⟩
    rw [h'.contacts]
    exact List.mem_map.2 ⟨c, h₁, if_neg hex₁⟩

/-- What a second restoring to the same time does. It does nothing if the time lies before the first
one or if that one did nothing; otherwise it takes the first one back. -/
theorem restoreAll_twice (hn : (s.tables.contacts.map (·.id)).Nodup) (he : env.Serves)
    (he' : env'.Serves) (hd : env'.dialect = env.dialect) (ht : time.isDated) :
    ∃ m s₁ m' s₂, (Operation.restoreAll time).perform env s = .ok (.restored m) s₁ ∧
      (Operation.restoreAll time).perform env' s₁ = .ok (.restored m') s₂ ∧
      (time < env.now ∨ m = 0 → m' = 0 ∧ s₂.tables = s₁.tables) ∧
      (Faithful s → Roomy env s → env.now ≤ time →
        m' = m ∧ ∀ c ∈ s.tables.contacts, ∃ c' ∈ s₂.tables.contacts,
          c'.id = c.id ∧ c'.fields = c.fields) := by
  obtain ⟨s₁, hrun, h⟩ := restoreAll_restored he.refusal ht hn
  obtain ⟨s₂, hrun', h'⟩ := restoreAll_restored he'.refusal ht (h.ids ▸ hn)
  refine ⟨_, s₁, _, s₂, hrun, hrun', ?_, ?_⟩
  · intro hearly
    apply h.fixed h'
    intro c hc
    obtain ⟨kept, hkept⟩ := h.refiled c hc
    rcases hearly with hlt | hnone
    · exact hkept.not_returns_of_lt hd hlt
    · apply hkept.not_returns hd
      simpa using List.countP_eq_zero.1 hnone c hc
  · intro hs hroom hle
    have hmem {c : Contact} (hc : c ∈ existingAt s.tables time) : c ∈ s.tables.contacts :=
      (mem_existingAt.1 hc).1
    refine ⟨h.returnCount_eq ?_, h.undone h' ?_ ?_⟩
    · intro c hc
      obtain ⟨kept, hkept⟩ := h.refiled c hc
      rw [hkept.returns_of_le he hd hs hroom hle (hmem hc), decide_eq_true_eq]
    · intro c hc hr
      obtain ⟨kept, hkept⟩ := h.refiled c hc
      exact ⟨hkept.latest_of_le he hs hroom hle (hmem hc) hr,
        (hkept.returns_of_le he hd hs hroom hle (hmem hc)).2 hr⟩
    · intro c hc hr
      obtain ⟨kept, hkept⟩ := h.refiled c hc
      exact hkept.not_returns hd hr

/-- The store in which the renamed contact has got back its first name. -/
def renamedBack : Store where
  tables := {
    contacts := [⟨.numbered 0xc0 1, { name := some ['a'] }, 3, true, none, 1, 3⟩]
    snapshots := [⟨.numbered 0xe0 1, .numbered 0xc0 1, 1, { name := some ['a'] }, 2⟩,
      ⟨.numbered 0xe0 2, .numbered 0xc0 1, 2, { name := some ['b'] }, 3⟩] }
  journal := [⟨.numbered 0xc0 1, 2, { name := some ['b'] }, { name := some ['a'] }, true, 3⟩,
    ⟨.numbered 0xc0 1, 1, { name := some ['a'] }, { name := some ['b'] }, true, 2⟩]
  issued := ⟨1, 2, 0, 0⟩
  tried := 8

theorem roomy_renamedOnce : Roomy (.fair 3) (Store.run {} renamedOnce) :=
  ⟨fitting_run (by simp [renamedOnce, Conditions.fair]), by decide⟩

/-- The restoring to an earlier time stands, the one to a later time is taken back. -/
theorem restoreAll_twice_renamedOnce :
    (∃ s₂, (Operation.restoreAll 2).perform (.fair 4) renamedBack = .ok (.restored 0) s₂ ∧
      s₂.tables = renamedBack.tables) ∧
    ∃ s₂, (Operation.restoreAll 5).perform (.fair 4) renamedBack = .ok (.restored 1) s₂ ∧
      ∃ c' ∈ s₂.tables.contacts, c'.fields = { name := some ['b'] } := by
  constructor
  · have hone : (Operation.restoreAll 2).perform (.fair 3) (Store.run {} renamedOnce) =
      .ok (.restored 1) renamedBack := rfl
    obtain ⟨m, s₁, m', s₂, hrun, hrun', hnothing, -⟩ :=
      @restoreAll_twice (.fair 3) (.fair 4) 2 (Store.run {} renamedOnce) (by decide)
        (serves_fair (by decide)) (serves_fair (by decide)) rfl (by decide)
    obtain ⟨rfl, htables⟩ := hnothing (Or.inl (by decide))
    obtain ⟨-, rfl⟩ := EStateM.Result.ok.inj (hone.symm.trans hrun)
    exact ⟨s₂, hrun', htables⟩
  · have hone : (Operation.restoreAll 5).perform (.fair 3) (Store.run {} renamedOnce) =
      .ok (.restored 1) renamedBack := rfl
    obtain ⟨m, s₁, m', s₂, hrun, hrun', -, hback⟩ :=
      @restoreAll_twice (.fair 3) (.fair 4) 5 (Store.run {} renamedOnce) (by decide)
        (serves_fair (by decide)) (serves_fair (by decide)) rfl (by decide)
    obtain ⟨hm, rfl⟩ := EStateM.Result.ok.inj (hone.symm.trans hrun)
    obtain rfl := Answer.restored.inj hm
    obtain ⟨rfl, hfields⟩ := hback (faithful_run faithful_empty) roomy_renamedOnce (by decide)
    obtain ⟨c', hc', -, hf⟩ :=
      hfields ⟨.numbered 0xc0 1, { name := some ['b'] }, 2, true, none, 1, 2⟩ (by decide)
    exact ⟨s₂, hrun', c', hc', hf⟩

/-- Restoring to a time that is still to come and restoring to it again undoes what was done. -/
theorem restoreAll_undone : ¬ ∀ (env env' : Conditions) (steps : List Step) (time : Instant)
    (m m' : Nat) (s₁ s₂ : Store), env.Serves → env'.Serves → env'.dialect = env.dialect →
    env.now < env'.now → time.isDated →
    (Operation.restoreAll time).perform env (Store.run {} steps) = .ok (.restored m) s₁ →
    (Operation.restoreAll time).perform env' s₁ = .ok (.restored m') s₂ →
    m' = 0 ∧ s₂.tables.contacts = s₁.tables.contacts ∧
      s₂.tables.snapshots = s₁.tables.snapshots := by
  intro h
  have hzero := h (.fair 3) (.fair 4) renamedOnce 5 1 1 renamedBack _ (serves_fair (by decide))
    (serves_fair (by decide)) rfl (by decide) (by decide) rfl rfl
  exact absurd hzero.1 (by decide)

end AddressBook.History
