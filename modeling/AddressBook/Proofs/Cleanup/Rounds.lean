import AddressBook.Proofs.Cleanup.Dropping
import AddressBook.Proofs.History.Turns

/-!
The passes of a cleanup over the contacts, turn by turn. What a turn writes stands as a whole or leaves nothing
behind. It bears on one contact and its snapshots, and for the turns behind it matters only how many
writes were tried.
-/
namespace AddressBook.Cleanup

open AddressBook.Action AddressBook.History

/-- The changes of a rule that make a difference. -/
def needed (rule : Fields → Changes) (v : Fields) : Changes :=
  (rule v).filter fun (f, x) => v.get f != x

/-- Whether a rule makes a difference. -/
def needs (rule : Fields → Changes) (c : Contact) : Bool := !(needed rule c.fields).isEmpty

/-- A contact after the changes of a rule. -/
def edited (rule : Fields → Changes) (now : Instant) (c : Contact) : Contact :=
  c.revised (needed rule c.fields) now

/-- What a snapshot holds. -/
structure Entry where
  version : Int
  fields : Fields
  taken : Instant
deriving DecidableEq

/-- What a snapshot holds, without the identifiers. -/
def Entry.ofSnapshot (p : Snapshot) : Entry := ⟨p.version, p.fields, p.taken⟩

/-- A contact, and what its snapshots hold in the order in which they were taken. -/
structure Dossier where
  contact : Contact
  history : List Entry
deriving DecidableEq

/-- The dossier of a contact. -/
def dossier (t : Tables) (c : Contact) : Dossier := ⟨c, (filed t c.id).map .ofSnapshot⟩

/-- The dossiers of all contacts. -/
def dossiers (t : Tables) : List Dossier := t.contacts.map (dossier t)

/-- The store takes a snapshot of a contact as the write of a given number. -/
def Dossier.Taken (env : Conditions) (n : Nat) (d : Dossier) : Prop :=
  env.refusal n (.insertSnapshot d.contact.id d.contact.version) = none ∧ env.now.isDated ∧
    fitsSigned d.contact.version ∧ ∀ e ∈ d.history, e.version ≠ d.contact.version

instance {env : Conditions} {n : Nat} {d : Dossier} : Decidable (d.Taken env n) :=
  inferInstanceAs (Decidable (_ ∧ _ ∧ _ ∧ _))

/-- A pass of a cleanup. -/
inductive Pass where
  | addresses
  | emptyFields
  | duplicates
  | normalForms
deriving DecidableEq

namespace Pass

/-- What a pass that changes fields calls it, and its rule. The others put contacts out of use. -/
def rule? : Pass → Option (String × (Fields → Changes))
  | addresses => some ("Cleaned address", addressRule)
  | emptyFields => some ("Cleaned empty fields", emptyRule)
  | duplicates => none
  | normalForms => some ("General cleanup", normalRule)

/-- The turn of a contact. -/
def turn (env : Conditions) (p : Pass) (r : Report) (c : Contact) : Action Report :=
  match p.rule? with
  | some (label, rule) => apply env label r c (rule c.fields)
  | none => dropDuplicate env r c (mailOf c)

/-- The turns of some contacts. -/
def turns (env : Conditions) (p : Pass) : List Contact → Report → Action Report
  | [], r => return r
  | c :: rest, r => do turns env p rest (← turn env p r c)

/-- A contact after its turn, if it could be written. -/
def edit (p : Pass) (now : Instant) (c : Contact) : Contact :=
  match p.rule? with
  | some (_, rule) => edited rule now c
  | none => retired now c

/-- The number of writes that are tried at a turn. A change of fields comes behind a snapshot. -/
def tries (p : Pass) : Nat := if p.rule?.isSome then 2 else 1

/-- The store takes what a pass makes of a contact, at a turn that starts with the write of a given
number. -/
def Takes (env : Conditions) (p : Pass) (n : Nat) (c : Contact) : Prop :=
  env.refusal (n + (p.tries - 1)) (.updateContact c.id) = none ∧
    (p.rule?.isSome → env.Fits (p.edit env.now c).fields.values ∧ fitsSigned (c.version + 1))

instance {env : Conditions} {p : Pass} {n : Nat} {c : Contact} : Decidable (p.Takes env n c) :=
  inferInstanceAs (Decidable (_ ∧ _))

/-- A dossier after the turn of its contact, if that could be written: fields are not changed
without an attempt at a snapshot. -/
def written (env : Conditions) (p : Pass) (n : Nat) (d : Dossier) : Dossier where
  contact := p.edit env.now d.contact
  history := d.history ++ if p.rule?.isSome ∧ d.Taken env n
    then [⟨d.contact.version, d.contact.fields, env.now⟩] else []

/-- The number of the first write at the turn of a contact, if the first of all has a given
number. -/
def start (p : Pass) (ds : List Contact) (n : Nat) (c : Contact) : Nat := n + p.tries * ds.idxOf c

/-- All dossiers after the turns of some contacts, from which some are left out. -/
def sweep (env : Conditions) (p : Pass) (ds : List Contact) (n : Nat) (left : Contact → Bool)
    (fs : List Dossier) : List Dossier :=
  fs.map fun d => if d.contact ∈ ds ∧ !left d.contact then p.written env (p.start ds n d.contact) d
    else d

/-- A contact cannot be written at its turn. -/
def fails (env : Conditions) (p : Pass) (ds : List Contact) (n : Nat) (c : Contact) : Bool :=
  !decide (p.Takes env (p.start ds n c) c)

end Pass

/-- What turns come to: contacts that cannot be written are left out and counted as errors, the
others are counted as cleaned, and each has a line in the report. Contacts without a turn, or left
out, stay as they are with the very snapshots they had. -/
structure Round (env : Conditions) (p : Pass) (ds : List Contact) (s s' : Store) (r r' : Report) :
    Prop where
  outcome : dossiers s'.tables = p.sweep env ds s.tried (p.fails env ds s.tried) (dossiers s.tables)
  spared : ∀ c ∈ s.tables.contacts, (c ∈ ds → p.fails env ds s.tried c) →
    c ∈ s'.tables.contacts ∧ filed s'.tables c.id = filed s.tables c.id
  elsewhere : s'.tables = { s.tables with
    contacts := s'.tables.contacts, snapshots := s'.tables.snapshots }
  tried : s'.tried = s.tried + p.tries * ds.length
  cleaned : r'.cleaned = r.cleaned + ds.countP (!p.fails env ds s.tried ·)
  errors : r'.errors = r.errors + ds.countP (p.fails env ds s.tried)
  details : r'.details.length = r.details.length + ds.length
  still : (∀ c ∈ ds, p.fails env ds s.tried c) → s'.tables = s.tables

variable {env : Conditions} {p : Pass} {rule : Fields → Changes} {s s₁ s' : Store}
  {r r₁ r' : Report} {c x : Contact} {ds : List Contact} {d : Dossier} {n : Nat}
  {left : Contact → Bool} {fs : List Dossier}

@[simp] theorem edited_active (now : Instant) : (edited rule now c).active = c.active := rfl

@[simp] theorem edited_created (now : Instant) : (edited rule now c).created = c.created := rfl

@[simp] theorem Pass.edit_id (p : Pass) (now : Instant) (c : Contact) : (p.edit now c).id = c.id := by
  unfold edit
  cases p.rule? <;> rfl

@[simp] theorem Pass.written_id : (p.written env n d).contact.id = d.contact.id :=
  p.edit_id env.now d.contact

@[simp] theorem dossier_contact (t : Tables) (c : Contact) : (dossier t c).contact = c := rfl

theorem dossiers_contacts (t : Tables) : (dossiers t).map (·.contact) = t.contacts := by
  rw [dossiers, List.map_map]
  exact List.map_id _

/-! ### One turn -/

theorem Pass.start_head : p.start (c :: ds) n c = n := by
  simp [start]

theorem Pass.start_tail (hx : x ≠ c) : p.start ds (n + p.tries) x = p.start (c :: ds) n x := by
  rw [start, start, List.idxOf_cons, beq_false_of_ne hx.symm, cond_false, Nat.mul_add, Nat.mul_one,
    Nat.add_assoc, Nat.add_comm p.tries]

theorem Pass.fails_head : p.fails env (c :: ds) n c = !decide (p.Takes env n c) := by
  rw [fails, start_head]

theorem Pass.fails_tail (hx : x ≠ c) :
    p.fails env ds (n + p.tries) x = p.fails env (c :: ds) n x := by
  rw [fails, fails, start_tail hx]

theorem round_of_failed {line : Text} (hnot : ¬ p.Takes env s.tried c)
    (htables : s'.tables = s.tables) (htried : s'.tried = s.tried + p.tries) :
    Round env p [c] s s' r (r.failure line) := by
  have hfails : p.fails env [c] s.tried c = true := by simp [Pass.fails_head, hnot]
  refine ⟨?_, fun x hx _ => by rw [htables]; exact ⟨hx, rfl⟩, by rw [htables],
    by simp [htried], ?_, ?_, ?_, fun _ => htables⟩
  · rw [htables, Pass.sweep, eq_comm]
    refine (List.map_congr_left fun d _ => ?_).trans (List.map_id _)
    refine if_neg fun h => ?_
    obtain he := List.mem_singleton.1 h.1
    simp [he, hfails] at h
  · simp [Report.failure, hfails]
  · simp [Report.failure, hfails]
  · simp [Report.failure]

/-- A snapshot that was written goes into the dossier of its contact and into no other. -/
theorem filed_of_kept {kept : Option Snapshot}
    (hs : s'.tables.snapshots = s.tables.snapshots ++ kept.toList)
    (hsnapshot : ∀ q ∈ kept, q = nextSnapshot s c env.now) (id : Uuid) :
    filed s'.tables id = filed s.tables id ++ if id = c.id then kept.toList else [] := by
  have hof : ∀ q ∈ kept.toList, q.contact = c.id := fun q hq =>
    congrArg Snapshot.contact (hsnapshot q (Option.mem_toList.1 hq))
  rw [filed, hs, List.filter_append]
  congr 1
  split
  next hid =>
    refine List.filter_eq_self.2 fun q hq => ?_
    rw [hof q hq, hid]
    exact beq_self_eq_true _
  next hid =>
    refine List.filter_eq_nil_iff.2 fun q hq he => ?_
    rw [hof q hq, beq_iff_eq] at he
    exact hid he.symm

theorem dossiers_of_written {kept : Option Snapshot}
    (hn : (s.tables.contacts.map (·.id)).Nodup) (hc : c ∈ s.tables.contacts)
    (htables : s'.tables = { s.tables.setContact (p.edit env.now c) with
      snapshots := s.tables.snapshots ++ kept.toList })
    (hkept : kept.isSome ↔ p.rule?.isSome ∧ (dossier s.tables c).Taken env s.tried)
    (hsnapshot : ∀ q ∈ kept, q = nextSnapshot s c env.now) :
    dossiers s'.tables = (dossiers s.tables).map fun d =>
      if d.contact = c then p.written env s.tried d else d := by
  have hsnapshots : s'.tables.snapshots = s.tables.snapshots ++ kept.toList := by rw [htables]
  have hfiled := filed_of_kept hsnapshots hsnapshot
  have hentries : kept.toList.map Entry.ofSnapshot =
      if p.rule?.isSome ∧ (dossier s.tables c).Taken env s.tried
        then [⟨c.version, c.fields, env.now⟩] else [] := by
    rw [← if_congr hkept rfl rfl]
    cases kept with
    | none => rfl
    | some q =>
      rw [hsnapshot q rfl]
      rfl
  have hcontacts : s'.tables.contacts = s.tables.contacts.map fun x =>
      if x.id == (p.edit env.now c).id then p.edit env.now c else x := by rw [htables]; rfl
  rw [dossiers, dossiers, hcontacts, List.map_map, List.map_map]
  apply List.map_congr_left
  intro x hx
  simp only [Function.comp_apply, Pass.edit_id, beq_iff_eq]
  by_cases he : x = c
  · subst he
    rw [if_pos rfl, if_pos (dossier_contact s.tables x), dossier, Pass.edit_id, hfiled, if_pos rfl,
      List.map_append, hentries]
    rfl
  · have hid : x.id ≠ c.id := fun hid => he (Tables.eq_of_id hn hx hc hid)
    have hother : (dossier s.tables x).contact ≠ c := he
    rw [if_neg hid, if_neg hother, dossier, hfiled, if_neg hid, List.append_nil]
    rfl

theorem round_of_written {line : Text} {kept : Option Snapshot}
    (hn : (s.tables.contacts.map (·.id)).Nodup) (hc : c ∈ s.tables.contacts)
    (htakes : p.Takes env s.tried c)
    (htables : s'.tables = { s.tables.setContact (p.edit env.now c) with
      snapshots := s.tables.snapshots ++ kept.toList })
    (hkept : kept.isSome ↔ p.rule?.isSome ∧ (dossier s.tables c).Taken env s.tried)
    (hsnapshot : ∀ q ∈ kept, q = nextSnapshot s c env.now)
    (htried : s'.tried = s.tried + p.tries) :
    Round env p [c] s s' r (r.success line) := by
  have hfails : p.fails env [c] s.tried c = false := by simp [Pass.fails_head, htakes]
  refine ⟨?_, ?_, by rw [htables]; rfl, by simp [htried], ?_, ?_, ?_, fun h => ?_⟩
  · rw [dossiers_of_written hn hc htables hkept hsnapshot]
    apply List.map_congr_left
    intro d _
    by_cases he : d.contact = c
    · simp [he, hfails, Pass.start_head]
    · simp [he]
  · intro x hx hspared
    have hid : x.id ≠ c.id := fun hid => by
      obtain rfl := Tables.eq_of_id hn hx hc hid
      simp [hfails] at hspared
    refine ⟨?_, by rw [filed_of_kept (by rw [htables]) hsnapshot, if_neg hid, List.append_nil]⟩
    rw [htables]
    refine List.mem_map.2 ⟨x, hx, if_neg ?_⟩
    rwa [Pass.edit_id, beq_iff_eq]
  · simp [Report.success, hfails]
  · simp [Report.success, hfails]
  · simp [Report.success]
  · simp [hfails] at h

/-- A pass comes to a contact to change something. -/
def Pass.Ready (p : Pass) (c : Contact) : Prop :=
  match p.rule? with
  | some (_, rule) => needs rule c
  | none => c.active

theorem taken_dossier (hc : c ∈ s.tables.contacts) :
    (dossier s.tables c).Taken env s.tried ↔ SnapshotTaken env s c := by
  have hid : c.id ∈ s.tables.contacts.map (·.id) := List.mem_map_of_mem hc
  simp [Dossier.Taken, SnapshotTaken, dossier, admissible_iff, hid, Entry.ofSnapshot]

/-- Where a rule makes no difference, nothing is done. -/
theorem apply_of_not_needs {label : String} (hnot : ¬ needs rule c) :
    apply env label r c (rule c.fields) = pure r := by
  have hnone : needed rule c.fields = [] := by
    simpa [needs, List.isEmpty_iff] using hnot
  have hchanges : (rule c.fields).filter (fun (f, x) => c.fields.get f != x) =
    needed rule c.fields := rfl
  unfold apply
  rw [hchanges, hnone]

/-- The turn of a contact in a pass that changes fields. -/
theorem apply_round {label : String} {rule : Fields → Changes} (hrule : p.rule? = some (label, rule))
    (r : Report) (hn : (s.tables.contacts.map (·.id)).Nodup) (hc : c ∈ s.tables.contacts)
    (hneeds : needs rule c) :
    ∃ r' s', apply env label r c (rule c.fields) s = .ok r' s' ∧ Round env p [c] s s' r r' := by
  have htries : p.tries = 2 := by simp [Pass.tries, hrule]
  have hedit : p.edit env.now c = c.revised (needed rule c.fields) env.now := by
    rw [Pass.edit, hrule]
    rfl
  have htakes : p.Takes env s.tried c ↔ ChangeTaken env s c (needed rule c.fields) := by
    simp [Pass.Takes, htries, hrule, hedit, ChangeTaken, Contact.revised]
  have hchanges : (rule c.fields).filter (fun (f, x) => c.fields.get f != x) =
    needed rule c.fields := rfl
  unfold apply
  rw [hchanges]
  cases hneeded : needed rule c.fields with
  | nil => simp [needs, hneeded] at hneeds
  | cons change changes =>
    rw [hneeded] at hedit htakes
    dsimp only
    cases hrec : record env c (change :: changes) s with
    | ok c' s' =>
      obtain ⟨htaken, -, kept, hs'⟩ := of_record hrec
      refine ⟨_, s', bind_of_ok (recover_of_ok (savepoint_of_ok hrec)), ?_⟩
      refine round_of_written hn hc (htakes.2 htaken) ?_ ?_ hs'.snapshot ?_
      · rw [hs'.tables, hedit]
      · simp [hs'.taken, hrule, taken_dossier hc]
      · rw [hs'.tried, htries]
    | error e s' =>
      refine ⟨_, _, bind_of_ok (recover_of_error (savepoint_of_error hrec)), ?_⟩
      refine round_of_failed (fun h => ?_) rfl ?_
      · obtain ⟨_, _, hok, -⟩ := record_of_taken (htakes.1 h)
        rw [hrec] at hok
        cases hok
      · rw [htries]
        exact (record_error hrec).2

/-- The turn of a duplicate. -/
theorem dropDuplicate_round (hrule : p.rule? = none) (r : Report)
    (hn : (s.tables.contacts.map (·.id)).Nodup) (hc : c ∈ s.tables.contacts) (hactive : c.active) :
    ∃ r' s', dropDuplicate env r c (mailOf c) s = .ok r' s' ∧ Round env p [c] s s' r r' := by
  have htries : p.tries = 1 := by simp [Pass.tries, hrule]
  have hedit : p.edit env.now c = retired env.now c := by rw [Pass.edit, hrule]
  have htakes : p.Takes env s.tried c ↔ env.refusal s.tried (.updateContact c.id) = none := by
    simp [Pass.Takes, htries, hrule]
  have hset := setActive_run env hn hc hactive
  unfold dropDuplicate
  cases hrefusal : env.refusal s.tried (.updateContact c.id) with
  | none =>
    rw [hrefusal] at hset
    refine ⟨_, _, bind_of_ok (recover_of_ok (savepoint_of_ok hset)), ?_⟩
    have hkept : (none : Option Snapshot).isSome ↔
        p.rule?.isSome ∧ (dossier s.tables c).Taken env s.tried := by simp [hrule]
    refine round_of_written hn hc (htakes.2 hrefusal) ?_ hkept (by simp) ?_
    · rw [hedit, Option.toList_none, List.append_nil]
      rfl
    · rw [htries]
  | some reason =>
    rw [hrefusal] at hset
    refine ⟨_, _, bind_of_ok (recover_of_error (savepoint_of_error hset)), ?_⟩
    refine round_of_failed (fun h => ?_) rfl ?_
    · rw [htakes, hrefusal] at h
      cases h
    · rw [htries]

/-- What the turn of a contact comes to. -/
theorem turn_round (env : Conditions) (p : Pass) (r : Report)
    (hn : (s.tables.contacts.map (·.id)).Nodup) (hc : c ∈ s.tables.contacts) (hready : p.Ready c) :
    ∃ r' s', p.turn env r c s = .ok r' s' ∧ Round env p [c] s s' r r' := by
  unfold Pass.turn
  unfold Pass.Ready at hready
  cases hrule : p.rule? with
  | some labelled =>
    rw [hrule] at hready
    exact apply_round hrule r hn hc hready
  | none =>
    rw [hrule] at hready
    exact dropDuplicate_round hrule r hn hc hready

/-! ### One turn after another -/

theorem dossiers_ids (t : Tables) :
    (dossiers t).map (·.contact.id) = t.contacts.map (·.id) := by
  rw [← dossiers_contacts t, List.map_map]
  rfl

theorem Pass.sweep_ids : (p.sweep env ds n left fs).map (·.contact.id) = fs.map (·.contact.id) := by
  rw [sweep, List.map_map]
  apply List.map_congr_left
  intro d _
  simp only [Function.comp_apply]
  split
  · exact written_id
  · rfl

theorem Round.ids (h : Round env p ds s s' r r') :
    s'.tables.contacts.map (·.id) = s.tables.contacts.map (·.id) := by
  rw [← dossiers_ids, h.outcome, Pass.sweep_ids, dossiers_ids]

theorem Round.nil (env : Conditions) (p : Pass) (s : Store) (r : Report) :
    Round env p [] s s r r := by
  refine ⟨?_, fun c hc _ => ⟨hc, rfl⟩, rfl, by simp, by simp, by simp, by simp, fun _ => rfl⟩
  simp [Pass.sweep]

/-- The turn of the first contact, and those behind it. -/
theorem Pass.sweep_cons (hnew : c.id ∉ ds.map (·.id)) (fs : List Dossier) :
    p.sweep env ds (n + p.tries) (p.fails env ds (n + p.tries))
        (p.sweep env [c] n (p.fails env [c] n) fs) =
      p.sweep env (c :: ds) n (p.fails env (c :: ds) n) fs := by
  rw [sweep, sweep, sweep, List.map_map]
  apply List.map_congr_left
  intro d _
  simp only [Function.comp_apply, List.mem_cons, List.not_mem_nil, or_false]
  by_cases he : d.contact = c
  · -- the contact has had its turn: what became of it has its identifier, and has no other turn
    have hout {x : Contact} (hx : x.id = c.id) : x ∉ ds := fun hmem =>
      hnew (List.mem_map.2 ⟨x, hmem, hx⟩)
    simp only [he, true_and, true_or, fails_head, start_head]
    split
    · rw [if_neg fun h => hout (written_id.trans (congrArg Contact.id he)) h.1]
    · rw [if_neg fun h => hout (congrArg Contact.id he) h.1]
  · simp only [he, false_and, false_or, if_false, fails_tail he, start_tail he]

theorem Pass.countP_fails (hnew : c ∉ ds) (f : Bool → Bool) :
    (c :: ds).countP (fun x => f (p.fails env (c :: ds) n x)) =
      [c].countP (fun x => f (p.fails env [c] n x)) +
        ds.countP fun x => f (p.fails env ds (n + p.tries) x) := by
  have hrest : ds.countP (fun x => f (p.fails env ds (n + p.tries) x)) =
      ds.countP fun x => f (p.fails env (c :: ds) n x) := by
    apply List.countP_congr
    intro x hx
    have hne : x ≠ c := fun he => hnew (he ▸ hx)
    rw [fails_tail hne]
  rw [hrest, List.countP_cons, List.countP_singleton, fails_head, fails_head, Nat.add_comm]

/-- The turn of a contact and those of the rest, who are others. -/
theorem Round.cons (hnew : c.id ∉ ds.map (·.id)) (h : Round env p [c] s s₁ r r₁)
    (h' : Round env p ds s₁ s' r₁ r') : Round env p (c :: ds) s s' r r' := by
  have htried : s₁.tried = s.tried + p.tries := by simpa using h.tried
  have hc : c ∉ ds := fun hc => hnew (List.mem_map_of_mem hc)
  have hone {x : Contact} (hx : x ∈ [c]) :
      p.fails env [c] s.tried x = p.fails env (c :: ds) s.tried x := by
    rw [List.mem_singleton.1 hx, Pass.fails_head, Pass.fails_head]
  have hrest {x : Contact} (hx : x ∈ ds) :
      p.fails env ds s₁.tried x = p.fails env (c :: ds) s.tried x := by
    have hne : x ≠ c := fun he => hc (he ▸ hx)
    rw [htried, Pass.fails_tail hne]
  refine ⟨?_, ?_, ?_, ?_, ?_, ?_, ?_, fun hall => ?_⟩
  · rw [h'.outcome, h.outcome, htried, Pass.sweep_cons hnew]
  · intro x hx hspared
    obtain ⟨hx₁, hfiled₁⟩ := h.spared x hx fun hmem =>
      (hone hmem).trans (hspared (List.mem_cons.2 (.inl (List.mem_singleton.1 hmem))))
    obtain ⟨hx', hfiled'⟩ := h'.spared x hx₁ fun hmem =>
      (hrest hmem).trans (hspared (List.mem_cons_of_mem _ hmem))
    exact ⟨hx', hfiled'.trans hfiled₁⟩
  · rw [h'.elsewhere, h.elsewhere]
  · rw [h'.tried, htried, List.length_cons, Nat.mul_add, Nat.mul_one]
    omega
  · rw [h'.cleaned, h.cleaned, htried, Pass.countP_fails hc (!·), Nat.add_assoc]
  · rw [h'.errors, h.errors, htried, Nat.add_assoc]
    exact congrArg _ (Pass.countP_fails hc id).symm
  · rw [h'.details, h.details, List.length_cons, List.length_cons, List.length_nil]
    omega
  · rw [h'.still fun x hx => (hrest hx).trans (hall x (List.mem_cons_of_mem _ hx)),
      h.still fun x hx => (hone hx).trans (hall x (List.mem_cons.2 (.inl (List.mem_singleton.1 hx))))]

/-- What an earlier turn leaves for those behind it. -/
theorem Round.listed (h : Round env p [c] s s' r r') (hl : Listed s (c :: ds)) : Listed s' ds := by
  obtain ⟨hnew, hds⟩ := List.nodup_cons.1 hl.nodup
  refine ⟨fun x hx => ?_, hds⟩
  have hne : x ≠ c := by
    rintro rfl
    exact hnew (List.mem_map_of_mem hx)
  have hmem : dossier s.tables x ∈ dossiers s.tables :=
    List.mem_map_of_mem (hl.mem x (List.mem_cons_of_mem _ hx))
  rw [← dossiers_contacts, h.outcome, Pass.sweep]
  refine List.mem_map.2 ⟨_, List.mem_map.2 ⟨_, hmem, rfl⟩, ?_⟩
  rw [if_neg fun h => hne (List.mem_singleton.1 h.1), dossier_contact]

/-- What the turns of some contacts come to. -/
theorem turns_round (env : Conditions) (p : Pass) (r : Report)
    (hn : (s.tables.contacts.map (·.id)).Nodup) (hl : Listed s ds) (hready : ∀ c ∈ ds, p.Ready c) :
    ∃ r' s', p.turns env ds r s = .ok r' s' ∧ Round env p ds s s' r r' := by
  induction ds generalizing s r with
  | nil => exact ⟨r, s, rfl, .nil env p s r⟩
  | cons c rest ih =>
    obtain ⟨hnew, -⟩ := List.nodup_cons.1 hl.nodup
    obtain ⟨r₁, s₁, hturn, hs₁⟩ := turn_round env p r hn (hl.mem c (List.mem_cons_self ..))
      (hready c (List.mem_cons_self ..))
    obtain ⟨r', s', hrest, hs'⟩ := ih r₁ (hs₁.ids ▸ hn) (hs₁.listed hl) fun x hx =>
      hready x (List.mem_cons_of_mem _ hx)
    refine ⟨r', s', ?_, hs₁.cons hnew hs'⟩
    rw [Pass.turns, bind_of_ok hturn, hrest]

end AddressBook.Cleanup
