import AddressBook.Proofs.Cleanup.Rules

/-!
Cleanups of which some writes fail. A contact that cannot be written stays as it is, with its
snapshots, and all others end as they would if its turns were skipped. The report counts both, with
a line for each.
-/
namespace AddressBook

/-- Whether a write is refused does not depend on how many were tried before. -/
def Conditions.Timeless (env : Conditions) : Prop := ∀ n w, env.refusal n w = env.refusal 0 w

namespace Cleanup

open AddressBook.Action AddressBook.History

namespace Pass

/-- A pass that skips the turns of some contacts. -/
def skip (env : Conditions) (left : Contact → Bool) (p : Pass) : Action Report := do
  p.turns env ((p.due env (← tables).contacts).filter (!left ·)) {}

/-- The store does not take what a pass makes of a contact. -/
def refused (env : Conditions) (p : Pass) (c : Contact) : Bool := !decide (p.Takes env 0 c)

end Pass

/-- Passes one after another, each of which skips the turns of some contacts. -/
def skips (env : Conditions) (left : Pass → Contact → Bool) : List Pass → Action Report
  | [] => return {}
  | p :: ps => do
    let a ← p.skip env (left p)
    return a.merge (← skips env left ps)

/-- A contact before and after a pass that changes fields has a new version exactly if it has other
fields. -/
def Stepped (c c' : Contact) : Prop := c' = c ∨ c'.version = c.version + 1 ∧ c'.fields ≠ c.fields

/-- A cleanup whatever writes fail. A contact that the store does not take stays as it is with the
very snapshots it had; all others end as they do where the turns at which a write fails are
skipped. -/
structure Isolated (env : Conditions) (kind : Kind) (s s' : Store) (r : Report) : Prop where
  course : Course env kind.passes s s' r
  lines : r.details.length = r.cleaned + r.errors
  spared : ∀ c ∈ s.tables.contacts, (∀ n, env.refusal n (.updateContact c.id) ≠ none) →
    c ∈ s'.tables.contacts ∧ filed s'.tables c.id = filed s.tables c.id
  others : env.Timeless → ∃ q t, skips env (fun p c => p.refused env c) kind.passes s = .ok q t ∧
    dossiers t.tables = dossiers s'.tables ∧ q.cleaned = r.cleaned ∧ q.errors = 0
  versions : kind = .addresses ∨ kind = .emptyFields → ∀ c ∈ s.tables.contacts,
    ∀ c' ∈ s'.tables.contacts, c'.id = c.id → Stepped c c'

variable {env : Conditions} {p : Pass} {ps : List Pass} {s s₁ s' t t₁ : Store} {r r' a q : Report}
  {c c' : Contact} {ds : List Contact} {n : Nat}

/-! ### The report, and contacts that are never written -/

theorem Round.lines (h : Round env p ds s s' {} r) : r.details.length = r.cleaned + r.errors := by
  have hsplit := List.length_eq_countP_add_countP (p.fails env ds s.tried) (l := ds)
  simp only [Bool.not_eq_true, Bool.decide_eq_false] at hsplit
  rw [h.details, h.cleaned, h.errors, hsplit]
  simp only [List.length_nil]
  omega

theorem Course.lines (h : Course env ps s s' r) : r.details.length = r.cleaned + r.errors := by
  induction h with
  | done s => rfl
  | pass first rest ih =>
    rw [Report.merge, List.length_append, first.lines, ih]
    dsimp only
    omega

/-- A contact that the store never takes has no turn, or is left out at each. -/
theorem Pass.fails_of_refused (hc : ∀ n, env.refusal n (.updateContact c.id) ≠ none) :
    p.fails env ds n c := by
  simp [fails, Takes, hc]

theorem Course.spared (h : Course env ps s s' r) (hc : c ∈ s.tables.contacts)
    (hrefused : ∀ n, env.refusal n (.updateContact c.id) ≠ none) :
    c ∈ s'.tables.contacts ∧ filed s'.tables c.id = filed s.tables c.id := by
  induction h with
  | done s => exact ⟨hc, rfl⟩
  | pass first rest ih =>
    obtain ⟨hc₁, hfiled⟩ := first.spared c hc fun _ => Pass.fails_of_refused hrefused
    obtain ⟨hc', hfiled'⟩ := ih hc₁
    exact ⟨hc', hfiled'.trans hfiled⟩

/-! ### Turns that are skipped -/

/-- A pass that skips turns gives one to all others. -/
theorem skip_round (env : Conditions) (left : Contact → Bool) (p : Pass)
    (hn : (s.tables.contacts.map (·.id)).Nodup) : ∃ r s', p.skip env left s = .ok r s' ∧
      Round env p ((p.due env s.tables.contacts).filter (!left ·)) s s' {} r := by
  have hl := listed_due env p hn
  exact turns_round env p {} hn ⟨fun c hc => hl.mem c (List.mem_filter.1 hc).1,
    hl.nodup.sublist (List.filter_sublist.map _)⟩ fun c hc => ready_of_due (List.mem_filter.1 hc).1

section

variable (henv : env.Timeless)
include henv

theorem Pass.takes_timeless (n : Nat) (c : Contact) : p.Takes env n c ↔ p.Takes env 0 c := by
  rw [Takes, Takes, henv (n + _), henv (0 + _)]

theorem Pass.written_timeless (n : Nat) (d : Dossier) : p.written env n d = p.written env 0 d := by
  have htaken : d.Taken env n ↔ d.Taken env 0 := by rw [Dossier.Taken, Dossier.Taken, henv n]
  simp only [written, htaken]

theorem Pass.fails_timeless (n : Nat) (c : Contact) : p.fails env ds n c = p.refused env c := by
  simp only [fails, refused, takes_timeless henv (p.start ds n c)]

/-- Where it does not matter how many writes were tried, contacts that cannot be written may as well
have no turn. -/
theorem Pass.sweep_filter (n m : Nat) (fs : List Dossier) :
    p.sweep env (ds.filter (!p.refused env ·)) n (p.fails env (ds.filter (!p.refused env ·)) n) fs =
      p.sweep env ds m (p.fails env ds m) fs := by
  apply List.map_congr_left
  intro d _
  rw [written_timeless henv, written_timeless henv (p.start ds m _), fails_timeless henv,
    fails_timeless henv]
  simp only [List.mem_filter, and_assoc, and_self]

theorem Round.skipped (h : Round env p ds s s₁ {} a)
    (h' : Round env p (ds.filter (!p.refused env ·)) t t₁ {} q)
    (hst : dossiers t.tables = dossiers s.tables) :
    dossiers t₁.tables = dossiers s₁.tables ∧ q.cleaned = a.cleaned ∧ q.errors = 0 := by
  refine ⟨?_, ?_, ?_⟩
  · rw [h'.outcome, h.outcome, hst]
    exact Pass.sweep_filter henv _ _ _
  · rw [h'.cleaned, h.cleaned, List.countP_filter]
    simp only [Pass.fails_timeless henv, Bool.and_self]
  · rw [h'.errors, List.countP_filter]
    simp [Pass.fails_timeless henv]

theorem Course.skipped (h : Course env ps s s' r) (hn : (s.tables.contacts.map (·.id)).Nodup)
    (hst : dossiers t.tables = dossiers s.tables) :
    ∃ q t', skips env (fun p c => p.refused env c) ps t = .ok q t' ∧
      dossiers t'.tables = dossiers s'.tables ∧ q.cleaned = r.cleaned ∧ q.errors = 0 := by
  induction h generalizing t with
  | done s => exact ⟨{}, t, rfl, hst, rfl, rfl⟩
  | @pass p ps s s₁ s' a r first rest ih =>
    -- the two stores part only in how many writes were tried and how snapshots are identified
    have hcontacts : t.tables.contacts = s.tables.contacts := by
      rw [← dossiers_contacts, hst, dossiers_contacts]
    obtain ⟨q, t₁, hskip, ht₁⟩ := skip_round env (fun c => p.refused env c) p (hcontacts ▸ hn)
    rw [hcontacts] at ht₁
    obtain ⟨hdossiers, hcleaned, herrors⟩ := first.skipped henv ht₁ hst
    obtain ⟨q', t', hrest, hdossiers', hcleaned', herrors'⟩ := ih (first.ids ▸ hn) hdossiers
    refine ⟨q.merge q', t', ?_, hdossiers', ?_, ?_⟩
    · rw [skips, bind_of_ok hskip, bind_of_ok hrest]
      rfl
    · rw [Report.merge, Report.merge, hcleaned, hcleaned']
    · rw [Report.merge, herrors, herrors']

end

/-! ### New versions -/

/-- What becomes of a contact at its turn. -/
theorem Round.become (h : Round env p ds s s' r r') (hn : (s.tables.contacts.map (·.id)).Nodup)
    (hc : c ∈ s.tables.contacts) (hc' : c' ∈ s'.tables.contacts) (hid : c'.id = c.id) :
    c' = c ∨ c ∈ ds ∧ c' = p.edit env.now c := by
  rw [← dossiers_contacts, h.outcome] at hc'
  obtain ⟨d', hd', rfl⟩ := List.mem_map.1 hc'
  obtain ⟨d, hd, rfl⟩ := List.mem_map.1 hd'
  obtain ⟨x, hx, rfl⟩ := List.mem_map.1 hd
  have hsame : x.id = c.id := by
    refine Eq.trans ?_ hid
    split
    · exact (Pass.written_id (d := dossier s.tables x)).symm
    · rfl
  obtain rfl := Tables.eq_of_id hn hx hc hsame
  split
  next hturn => exact .inr ⟨hturn.1, rfl⟩
  next => exact .inl rfl

theorem Round.stepped {label : String} {rule : Fields → Changes}
    (hrule : p.rule? = some (label, rule)) (hplain : Plain rule)
    (h : Round env p (p.due env s.tables.contacts) s s' {} r)
    (hn : (s.tables.contacts.map (·.id)).Nodup) (hc : c ∈ s.tables.contacts)
    (hc' : c' ∈ s'.tables.contacts) (hid : c'.id = c.id) : Stepped c c' := by
  obtain rfl | ⟨hdue, rfl⟩ := h.become hn hc hc' hid
  · exact .inl rfl
  · have hready := ready_of_due hdue
    rw [Pass.Ready, hrule] at hready
    rw [Pass.edit, hrule]
    refine .inr ⟨rfl, fun hfields => ?_⟩
    rw [edited_fields hplain, ← needs_eq_false_iff hplain] at hfields
    simp [hfields] at hready

theorem Course.of_single (h : Course env [p] s s' r) :
    Round env p (p.due env s.tables.contacts) s s' {} r := by
  cases h with
  | pass first rest =>
    cases rest
    rwa [Report.merge_empty]

/-- A cleanup goes through whatever writes fail. A contact that cannot be written stays as it is,
and the others end as if it were not there to be written. -/
theorem run_isolated (env : Conditions) (kind : Kind) (hn : (s.tables.contacts.map (·.id)).Nodup) :
    ∃ r s', run env kind s = .ok r s' ∧ Isolated env kind s s' r := by
  obtain ⟨r, s', hrun, hcourse⟩ := run_course env kind hn
  refine ⟨r, s', hrun, hcourse, hcourse.lines, fun c hc => hcourse.spared hc,
    fun henv => hcourse.skipped henv hn rfl, ?_⟩
  rintro (rfl | rfl) c hc c' hc' hid
  · exact hcourse.of_single.stepped rfl plain_addressRule hn hc hc' hid
  · exact hcourse.of_single.stepped rfl plain_emptyRule hn hc hc' hid

/-- What a run reports. -/
def counted : EStateM.Result Failure Store Report → Option (Nat × Nat)
  | .ok r _ => some (r.cleaned, r.errors)
  | .error _ _ => none

/-- A contact with escaped line breaks and without an e-mail address. -/
def broken (n : Nat) : Contact :=
  ⟨.numbered 0xc0 n, { name := some ['a'], address := some (Text.ofString "b0D=0Ac") }, 1, true, none,
    1, 1⟩

/-- Conditions under which the first contact cannot be written. -/
def firstLocked : Conditions :=
  { Conditions.fair 2 with
    refusal := fun _ w => if w = .updateContact (.numbered 0xc0 1) then some [] else none }

/-- Two passes of a cleanup fail for the first contact and change the second one. -/
theorem run_isolated_firstLocked : ∃ r s',
    run firstLocked .general { tables := { contacts := [broken 1, broken 2] } } = .ok r s' ∧
    r.cleaned = 2 ∧ r.errors = 2 ∧ r.details.length = 4 ∧
    broken 1 ∈ s'.tables.contacts ∧ filed s'.tables (broken 1).id = [] ∧
    ∃ q t, skips firstLocked (fun p c => p.refused firstLocked c) Kind.general.passes
        { tables := { contacts := [broken 1, broken 2] } } = .ok q t ∧
      dossiers t.tables = dossiers s'.tables ∧ q.cleaned = 2 ∧ q.errors = 0 := by
  obtain ⟨r, s', hrun, hisolated⟩ :=
    run_isolated (s := { tables := { contacts := [broken 1, broken 2] } }) firstLocked .general
      (by decide)
  have hcounted : counted (run firstLocked .general
      { tables := { contacts := [broken 1, broken 2] } }) = some (2, 2) := by
    decide +kernel
  rw [hrun] at hcounted
  obtain ⟨hcleaned, herrors⟩ := Prod.mk.inj (Option.some.inj hcounted)
  have hlocked : firstLocked.refusal 0 (.updateContact (broken 1).id) ≠ none := by decide
  obtain ⟨hstays, hfiled⟩ := hisolated.spared (broken 1) (List.mem_cons_self ..) fun _ => hlocked
  obtain ⟨q, t, hskips, hdossiers, hsame, hnone⟩ := hisolated.others fun _ _ => rfl
  exact ⟨r, s', hrun, hcleaned, herrors, by rw [hisolated.lines, hcleaned, herrors], hstays, hfiled,
    q, t, hskips, hdossiers, hsame.trans hcleaned, hnone⟩

end Cleanup
end AddressBook
