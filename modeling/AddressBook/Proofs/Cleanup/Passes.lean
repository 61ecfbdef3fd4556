import AddressBook.Proofs.Cleanup.Rounds

/-!
Whole passes of a cleanup, and its runs. A pass comes to each contact that is due once. What is due
for it is done or fails, contact by contact, and all other contacts stay as they are.
-/
namespace AddressBook.Cleanup

open AddressBook.Action

/-- The contacts whose addresses are due for cleaning. -/
def escaped (env : Conditions) (cs : List Contact) : List Contact :=
  cs.filter fun c => hasEscape env c.fields.address && needs addressRule c

/-- The contacts that are due for a name or an e-mail address. -/
def lacking (cs : List Contact) : List Contact :=
  cs.filter fun c =>
    ((present c.fields.name).isNone || (present c.fields.email).isNone) && needs emptyRule c

/-- The contacts in use that are due for the normal form. -/
def irregular (cs : List Contact) : List Contact :=
  cs.filter fun c => c.active && needs normalRule c

namespace Pass

/-- A pass over all contacts. -/
def run (env : Conditions) : Pass → Action Report
  | addresses => Cleanup.addresses env
  | emptyFields => Cleanup.emptyFields env
  | duplicates => Cleanup.duplicates env
  | normalForms => Cleanup.normalForms env

/-- The contacts for which a pass has something to do, in the order of their turns. -/
def due (env : Conditions) (p : Pass) (cs : List Contact) : List Contact :=
  match p with
  | addresses => escaped env cs
  | emptyFields => lacking cs
  | duplicates => repeats [] (withEmail { contacts := cs })
  | normalForms => irregular cs

end Pass

/-- The passes of a cleanup. -/
def Kind.passes : Kind → List Pass
  | .addresses => [.addresses]
  | .emptyFields => [.emptyFields]
  | .duplicates => [.duplicates]
  | .general => [.addresses, .emptyFields, .duplicates, .normalForms]

/-- What passes one after another come to: a round of turns each, of which the reports are added. -/
inductive Course (env : Conditions) : List Pass → Store → Store → Report → Prop
  | done (s : Store) : Course env [] s s {}
  | pass {p : Pass} {ps : List Pass} {s s₁ s' : Store} {a r : Report}
      (first : Round env p (p.due env s.tables.contacts) s s₁ {} a)
      (rest : Course env ps s₁ s' r) : Course env (p :: ps) s s' (a.merge r)

/-- What a pass comes to: the contacts for which something was due were edited, or could not be
written and stay as they were. -/
structure Swept (edit : Contact → Contact) (due : List Contact) (s s' : Store) (r r' : Report)
    (done failed : List Contact) : Prop where
  contacts : s'.tables.contacts = s.tables.contacts.map fun c => if c ∈ done then edit c else c
  due : (done ++ failed).Perm due
  cleaned : r'.cleaned = r.cleaned + done.length
  errors : r'.errors = r.errors + failed.length
  still : done = [] → s'.tables = s.tables

/-- A contact before and after a change of its fields. -/
structure Renewed (c c' : Contact) : Prop where
  id : c'.id = c.id
  active : c'.active = c.active
  created : c'.created = c.created

/-- A pass of its own. -/
def Sweeps (edit : Contact → Contact) (due : List Contact) (s s' : Store) (r : Report) : Prop :=
  ∃ done failed, Swept edit due s s' {} r done failed

variable {env : Conditions} {edit : Contact → Contact} {rule : Fields → Changes} {s s' : Store}
  {r r' : Report} {c c' x : Contact} {cs due done failed : List Contact} {p : Pass}

theorem Renewed.refl (c : Contact) : Renewed c c := ⟨rfl, rfl, rfl⟩

theorem Renewed.trans (h : Renewed c c') (h' : Renewed c' x) : Renewed c x :=
  ⟨h'.id.trans h.id, h'.active.trans h.active, h'.created.trans h.created⟩

theorem renewed_edited (rule : Fields → Changes) (now : Instant) (c : Contact) :
    Renewed c (edited rule now c) := ⟨rfl, rfl, rfl⟩

/-! ### Whole passes -/

/-- The contacts for which there is nothing to do have no turn. -/
theorem applyEach_eq {label : String} {rule : Fields → Changes}
    (hrule : p.rule? = some (label, rule)) (cs : List Contact) (r : Report) :
    applyEach env label rule cs r = p.turns env (cs.filter (needs rule)) r := by
  induction cs generalizing r with
  | nil => rfl
  | cons c rest ih =>
    rw [applyEach, List.filter_cons]
    by_cases hneeds : needs rule c
    · have hturn : p.turn env r c = apply env label r c (rule c.fields) := by
        rw [Pass.turn, hrule]
      rw [if_pos hneeds, Pass.turns, hturn]
      simp only [ih]
    · rw [if_neg hneeds, apply_of_not_needs hneeds, pure_bind, ih]

theorem dropAll_eq (ds : List Contact) (r : Report) :
    dropAll env ds r = Pass.duplicates.turns env ds r := by
  induction ds generalizing r with
  | nil => rfl
  | cons c rest ih =>
    rw [dropAll, Pass.turns]
    simp only [ih]
    rfl

theorem selected_eq_turns {label : String} {rule : Fields → Changes}
    (hrule : p.rule? = some (label, rule)) (sel : Contact → Bool) (s : Store) : (do
      let found := (← tables).contacts.filter sel
      applyEach env label rule found {}) s =
      p.turns env (s.tables.contacts.filter fun c => sel c && needs rule c) {} s := by
  rw [bind_of_ok (tables_run s), applyEach_eq hrule, List.filter_filter]
  simp only [Bool.and_comm (needs rule _)]

theorem run_eq_turns (env : Conditions) (p : Pass) (s : Store) :
    p.run env s = p.turns env (p.due env s.tables.contacts) {} s := by
  cases p with
  | addresses => exact selected_eq_turns rfl _ s
  | emptyFields => exact selected_eq_turns rfl _ s
  | duplicates =>
    change duplicates env s = _
    unfold duplicates
    rw [bind_of_ok (tables_run s), dropEach_eq, dropAll_eq]
    rfl
  | normalForms => exact selected_eq_turns rfl _ s

theorem listed_due (env : Conditions) (p : Pass) (hn : (s.tables.contacts.map (·.id)).Nodup) :
    Listed s (p.due env s.tables.contacts) := by
  have hfilter (sel : Contact → Bool) : Listed s (s.tables.contacts.filter sel) :=
    ⟨fun _ hc => (List.mem_filter.1 hc).1, hn.sublist (List.filter_sublist.map _)⟩
  cases p with
  | addresses => exact hfilter _
  | emptyFields => exact hfilter _
  | duplicates =>
    have hl := withEmail_listed hn
    have hsub := repeats_sublist [] (withEmail s.tables)
    exact ⟨fun c hc => hl.mem c (hsub.mem hc), hl.nodup.sublist (hsub.map _)⟩
  | normalForms => exact hfilter _

theorem ready_of_due (h : c ∈ p.due env cs) : p.Ready c := by
  have hneeds {sel : Contact → Bool} {rule : Fields → Changes}
      (h : c ∈ cs.filter fun c => sel c && needs rule c) : needs rule c :=
    (Bool.and_eq_true_iff.1 (List.mem_filter.1 h).2).2
  cases p with
  | addresses => exact hneeds h
  | emptyFields => exact hneeds h
  | duplicates => exact (mem_withEmail.1 (mem_of_repeats h)).2.1
  | normalForms => exact hneeds h

/-- A pass gives a turn to each contact for which it has something to do. -/
theorem run_round (env : Conditions) (p : Pass) (hn : (s.tables.contacts.map (·.id)).Nodup) :
    ∃ r s', p.run env s = .ok r s' ∧ Round env p (p.due env s.tables.contacts) s s' {} r := by
  rw [run_eq_turns]
  exact turns_round env p {} hn (listed_due env p hn) fun _ => ready_of_due

/-! ### One pass after another -/

theorem Report.merge_empty (r : Report) : r.merge {} = r := by
  simp [Report.merge]

theorem Course.single (h : Round env p (p.due env s.tables.contacts) s s' {} r) :
    Course env [p] s s' r := by
  have hcourse := Course.pass h (.done s')
  rwa [Report.merge_empty] at hcourse

/-- What a cleanup comes to. -/
theorem run_course (env : Conditions) (kind : Kind) (hn : (s.tables.contacts.map (·.id)).Nodup) :
    ∃ r s', run env kind s = .ok r s' ∧ Course env kind.passes s s' r := by
  have hone (p : Pass) : ∃ r s', p.run env s = .ok r s' ∧ Course env [p] s s' r := by
    obtain ⟨r, s', hrun, hround⟩ := run_round env p hn
    exact ⟨r, s', hrun, .single hround⟩
  cases kind with
  | addresses => exact hone .addresses
  | emptyFields => exact hone .emptyFields
  | duplicates => exact hone .duplicates
  | general =>
    obtain ⟨a, s₁, ha, hs₁⟩ := run_round env .addresses hn
    obtain ⟨b, s₂, hb, hs₂⟩ := run_round env .emptyFields (hs₁.ids ▸ hn)
    obtain ⟨c, s₃, hc, hs₃⟩ := run_round env .duplicates (hs₂.ids ▸ hs₁.ids ▸ hn)
    obtain ⟨d, s', hd, hs'⟩ := run_round env .normalForms (hs₃.ids ▸ hs₂.ids ▸ hs₁.ids ▸ hn)
    refine ⟨a.merge (b.merge (c.merge d)), s', ?_, .pass hs₁ (.pass hs₂ (.pass hs₃ (.single hs')))⟩
    rw [← Report.merge_assoc, ← Report.merge_assoc]
    change (Pass.addresses.run env >>= fun a => Pass.emptyFields.run env >>= fun b =>
      Pass.duplicates.run env >>= fun c => Pass.normalForms.run env >>= fun d =>
        pure (((a.merge b).merge c).merge d)) s = _
    rw [bind_of_ok ha, bind_of_ok hb, bind_of_ok hc, bind_of_ok hd]
    rfl

/-! ### What was due -/

theorem Round.swept (h : Round env p due s s' r r') :
    Swept (p.edit env.now) due s s' r r' (due.filter (!p.fails env due s.tried ·))
      (due.filter (p.fails env due s.tried)) := by
  refine ⟨?_, ?_, ?_, ?_, fun hnone => h.still fun c hc => ?_⟩
  · rw [← dossiers_contacts, h.outcome, ← dossiers_contacts s.tables, Pass.sweep, List.map_map,
      List.map_map]
    apply List.map_congr_left
    intro d _
    simp only [Function.comp_apply, List.mem_filter]
    split <;> rfl
  · simpa using List.filter_append_perm (!p.fails env due s.tried ·) due
  · rw [h.cleaned, List.countP_eq_length_filter]
  · rw [h.errors, List.countP_eq_length_filter]
  · simpa using List.filter_eq_nil_iff.1 hnone c hc

/-- What a pass comes to. -/
theorem run_sweeps (env : Conditions) (p : Pass) (hn : (s.tables.contacts.map (·.id)).Nodup) :
    ∃ r s', p.run env s = .ok r s' ∧
      Sweeps (p.edit env.now) (p.due env s.tables.contacts) s s' r := by
  obtain ⟨r, s', hrun, hround⟩ := run_round env p hn
  exact ⟨r, s', hrun, _, _, hround.swept⟩

theorem addresses_sweeps (env : Conditions) (hn : (s.tables.contacts.map (·.id)).Nodup) :
    ∃ r s', addresses env s = .ok r s' ∧
      Sweeps (edited addressRule env.now) (escaped env s.tables.contacts) s s' r :=
  run_sweeps env .addresses hn

theorem emptyFields_sweeps (env : Conditions) (hn : (s.tables.contacts.map (·.id)).Nodup) :
    ∃ r s', emptyFields env s = .ok r s' ∧
      Sweeps (edited emptyRule env.now) (lacking s.tables.contacts) s s' r :=
  run_sweeps env .emptyFields hn

theorem duplicates_sweeps (env : Conditions) (hn : (s.tables.contacts.map (·.id)).Nodup) :
    ∃ r s', duplicates env s = .ok r s' ∧
      Sweeps (retired env.now) (repeats [] (withEmail s.tables)) s s' r :=
  run_sweeps env .duplicates hn

theorem Swept.mem_due (h : Swept edit due s s' r r' done failed) (hc : c ∈ done) : c ∈ due :=
  h.due.mem_iff.1 (List.mem_append_left _ hc)

theorem Swept.ids (h : Swept edit due s s' r r' done failed) (hid : ∀ c, (edit c).id = c.id) :
    s'.tables.contacts.map (·.id) = s.tables.contacts.map (·.id) := by
  rw [h.contacts, List.map_map]
  apply List.map_congr_left
  intro c _
  simp only [Function.comp_apply]
  split
  · exact hid c
  · rfl

section

variable (h : Sweeps edit due s s' r)
include h

theorem Sweeps.ids (hid : ∀ c, (edit c).id = c.id) :
    s'.tables.contacts.map (·.id) = s.tables.contacts.map (·.id) := by
  obtain ⟨done, failed, hs⟩ := h
  exact hs.ids hid

/-- What becomes of a contact. -/
theorem Sweeps.ahead (hc : c ∈ s.tables.contacts) :
    ∃ c' ∈ s'.tables.contacts, c' = c ∨ c ∈ due ∧ c' = edit c := by
  obtain ⟨done, failed, hs⟩ := h
  rw [hs.contacts]
  refine ⟨_, List.mem_map_of_mem hc, ?_⟩
  split
  next hdone => exact .inr ⟨hs.mem_due hdone, rfl⟩
  next => exact .inl rfl

/-- Where a contact comes from. -/
theorem Sweeps.behind (hc : c ∈ s'.tables.contacts) :
    ∃ x ∈ s.tables.contacts, c = x ∨ x ∈ due ∧ c = edit x := by
  obtain ⟨done, failed, hs⟩ := h
  rw [hs.contacts] at hc
  obtain ⟨x, hx, rfl⟩ := List.mem_map.1 hc
  refine ⟨x, hx, ?_⟩
  split
  next hdone => exact .inr ⟨hs.mem_due hdone, rfl⟩
  next => exact .inl rfl

/-- A pass without errors does all that is due. -/
theorem Sweeps.whole (he : r.errors = 0) :
    (s'.tables.contacts = s.tables.contacts.map fun c => if c ∈ due then edit c else c) ∧
      r.cleaned = due.length := by
  obtain ⟨done, failed, hs⟩ := h
  have hfailed : failed = [] := by
    have herrors := hs.errors
    rw [he, Nat.zero_add] at herrors
    exact List.length_eq_zero_iff.1 herrors.symm
  have hdue := hs.due
  rw [hfailed, List.append_nil] at hdue
  constructor
  · simp only [hs.contacts, hdue.mem_iff]
  · rw [hs.cleaned, hdue.length_eq, Nat.zero_add]

/-- A pass to which nothing is due leaves everything as it is. -/
theorem Sweeps.idle (hdue : due = []) : s'.tables = s.tables ∧ r.cleaned = 0 ∧ r.errors = 0 := by
  obtain ⟨done, failed, hs⟩ := h
  have hnone := hs.due
  rw [hdue, List.perm_nil, List.append_eq_nil_iff] at hnone
  obtain ⟨rfl, rfl⟩ := hnone
  exact ⟨hs.still rfl, hs.cleaned, hs.errors⟩

end

/-- What becomes of a contact in a pass that changes fields. -/
theorem Sweeps.renews {now : Instant} (h : Sweeps (edited rule now) due s s' r)
    (hc : c ∈ s.tables.contacts) : ∃ c' ∈ s'.tables.contacts, Renewed c c' := by
  obtain ⟨c', hc', rfl | ⟨-, rfl⟩⟩ := h.ahead hc
  · exact ⟨_, hc', .refl _⟩
  · exact ⟨_, hc', renewed_edited ..⟩

/-! ### All passes of a run -/

/-- The stores that a general cleanup passes through, and what its passes report. -/
structure Overhaul (env : Conditions) (s s₁ s₂ s₃ s' : Store) (a b c d : Report) : Prop where
  addresses : Sweeps (edited addressRule env.now) (escaped env s.tables.contacts) s s₁ a
  filled : Sweeps (edited emptyRule env.now) (lacking s₁.tables.contacts) s₁ s₂ b
  dropped : Sweeps (retired env.now) (repeats [] (withEmail s₂.tables)) s₂ s₃ c
  normal : Sweeps (edited normalRule env.now) (irregular s₃.tables.contacts) s₃ s' d

theorem general_overhaul (env : Conditions) (hn : (s.tables.contacts.map (·.id)).Nodup) :
    ∃ s₁ s₂ s₃ s' a b c d, general env s = .ok (((a.merge b).merge c).merge d) s' ∧
      Overhaul env s s₁ s₂ s₃ s' a b c d := by
  obtain ⟨r, s', hrun, hcourse⟩ := run_course env .general hn
  change Course env [.addresses, .emptyFields, .duplicates, .normalForms] s s' r at hcourse
  obtain _ | ⟨h₁, _ | ⟨h₂, _ | ⟨h₃, _ | ⟨h₄, ⟨⟩⟩⟩⟩⟩ := hcourse
  rw [Report.merge_empty, ← Report.merge_assoc, ← Report.merge_assoc] at hrun
  exact ⟨_, _, _, _, _, _, _, _, hrun, ⟨_, _, h₁.swept⟩, ⟨_, _, h₂.swept⟩, ⟨_, _, h₃.swept⟩,
    ⟨_, _, h₄.swept⟩⟩

section

variable {s₂ s₃ : Store} {a b c d : Report} (h : Overhaul env s s₁ s₂ s₃ s' a b c d)
include h

theorem Overhaul.ids_filled :
    s₂.tables.contacts.map (·.id) = s.tables.contacts.map (·.id) := by
  rw [h.filled.ids fun _ => rfl, h.addresses.ids fun _ => rfl]

theorem Overhaul.ids : s'.tables.contacts.map (·.id) = s.tables.contacts.map (·.id) := by
  rw [h.normal.ids fun _ => rfl, h.dropped.ids fun _ => rfl, h.ids_filled]

end

theorem ofLabel?_title (kind : Kind) : Kind.ofLabel? (Text.ofString kind.title) = some kind := by
  cases kind <;> decide

theorem run_cleanup (kind : Kind) (h : run env kind s = .ok r s') :
    (Operation.cleanup (Text.ofString kind.title)).run env s = .ok (.report kind r) s' := by
  change Operation.clean env (Text.ofString kind.title) s = _
  unfold Operation.clean
  rw [ofLabel?_title]
  exact bind_of_ok h

end AddressBook.Cleanup
