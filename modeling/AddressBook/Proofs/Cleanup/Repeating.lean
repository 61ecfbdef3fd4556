import AddressBook.Proofs.Cleanup.Settled
import AddressBook.Proofs.Service.Run

/-!
A cleanup that is run twice. The second run comes to no contact, unless the first one left a contact
without a name or an e-mail address: it had neither, or one of them was but blanks.
-/
namespace AddressBook

namespace Cleanup

/-- There is no contact that a cleanup comes to. -/
def Idle (env : Conditions) (kind : Kind) (t : Tables) : Prop :=
  match kind with
  | .addresses => escaped env t.contacts = []
  | .emptyFields => lacking t.contacts = []
  | .duplicates => repeats [] (withEmail t) = []
  | .general => escaped env t.contacts = [] ∧ lacking t.contacts = [] ∧
      repeats [] (withEmail t) = [] ∧ irregular t.contacts = []

/-- A contact with given values is left for the next cleanup, depending on whether it is in use. -/
def Unsettled (kind : Kind) (v : Fields) (active : Bool) : Prop :=
  match kind with
  | .addresses | .duplicates => False
  | .emptyFields => Hollow v
  | .general => Hollow v ∨ active ∧ Vague v

/-- No contact is left for the next cleanup. -/
def Settled (kind : Kind) (s s' : Store) : Prop :=
  ∀ c ∈ s.tables.contacts, ∀ c' ∈ s'.tables.contacts, c'.id = c.id →
    ¬ Unsettled kind c.fields c'.active

variable {env env' : Conditions} {kind : Kind} {edit : Contact → Contact} {s s₁ s₂ s₃ s' : Store}
  {r r' q₁ q₂ q₃ q₄ : Report} {c : Contact} {cs due : List Contact} {v : Fields} {now : Instant}

/-! ### Runs that come to no contact -/

theorem Sweeps.total (h : Sweeps edit due s s' r) : r.cleaned + r.errors = due.length := by
  obtain ⟨done, failed, hs⟩ := h
  rw [hs.cleaned, hs.errors, ← hs.due.length_eq, List.length_append, Nat.zero_add, Nat.zero_add]

theorem Sweeps.busy (h : Sweeps edit due s s' r) (hdue : due ≠ []) : 0 < r.cleaned + r.errors := by
  rw [h.total]
  exact List.length_pos_iff.2 hdue

/-- What a run reports if there is nothing to do. -/
structure Uneventful (s s' : Store) (r : Report) : Prop where
  tables : s'.tables = s.tables
  cleaned : r.cleaned = 0
  errors : r.errors = 0

theorem Sweeps.uneventful (h : Sweeps edit due s s' r) (hdue : due = []) : Uneventful s s' r := by
  obtain ⟨htables, hcleaned, herrors⟩ := h.idle hdue
  exact ⟨htables, hcleaned, herrors⟩

theorem Overhaul.uneventful (h : Overhaul env s s₁ s₂ s₃ s' q₁ q₂ q₃ q₄)
    (hidle : Idle env .general s.tables) :
    Uneventful s s' (((q₁.merge q₂).merge q₃).merge q₄) := by
  obtain ⟨hescaped, hlacking, hrepeats, hirregular⟩ := hidle
  have h₁ := h.addresses.uneventful hescaped
  have h₂ := h.filled.uneventful (h₁.tables ▸ hlacking)
  have ht₂ := h₂.tables.trans h₁.tables
  have h₃ := h.dropped.uneventful (ht₂ ▸ hrepeats)
  have ht₃ := h₃.tables.trans ht₂
  have h₄ := h.normal.uneventful (ht₃ ▸ hirregular)
  refine ⟨h₄.tables.trans ht₃, ?_, ?_⟩
  · simp [Report.merge, h₁.cleaned, h₂.cleaned, h₃.cleaned, h₄.cleaned]
  · simp [Report.merge, h₁.errors, h₂.errors, h₃.errors, h₄.errors]

/-- The first pass that has something to do shows in the report. -/
theorem Overhaul.busy (h : Overhaul env s s₁ s₂ s₃ s' q₁ q₂ q₃ q₄)
    (hidle : ¬ Idle env .general s.tables) :
    0 < (((q₁.merge q₂).merge q₃).merge q₄).cleaned +
      (((q₁.merge q₂).merge q₃).merge q₄).errors := by
  change 0 < q₁.cleaned + q₂.cleaned + q₃.cleaned + q₄.cleaned +
    (q₁.errors + q₂.errors + q₃.errors + q₄.errors)
  by_cases hescaped : escaped env s.tables.contacts = []
  case neg =>
    have := h.addresses.busy hescaped
    omega
  have ht₁ := (h.addresses.uneventful hescaped).tables
  by_cases hlacking : lacking s₁.tables.contacts = []
  case neg =>
    have := h.filled.busy hlacking
    omega
  have ht₂ := (h.filled.uneventful hlacking).tables
  by_cases hrepeats : repeats [] (withEmail s₂.tables) = []
  case neg =>
    have := h.dropped.busy hrepeats
    omega
  have ht₃ := (h.dropped.uneventful hrepeats).tables
  by_cases hirregular : irregular s₃.tables.contacts = []
  case neg =>
    have := h.normal.busy hirregular
    omega
  rw [ht₃] at hirregular
  rw [ht₂] at hirregular hrepeats
  rw [ht₁] at hirregular hrepeats hlacking
  exact absurd ⟨hescaped, hlacking, hrepeats, hirregular⟩ hidle

/-- A run reports nothing exactly if there is nothing to do. -/
theorem run_idle (env : Conditions) (kind : Kind) (hn : (s.tables.contacts.map (·.id)).Nodup) :
    ∃ r s', run env kind s = .ok r s' ∧
      (s'.tables.contacts.map (·.id) = s.tables.contacts.map (·.id)) ∧
      (Idle env kind s.tables → Uneventful s s' r) ∧
      (¬ Idle env kind s.tables → 0 < r.cleaned + r.errors) := by
  cases kind with
  | addresses =>
    obtain ⟨r, s', hrun, h⟩ := addresses_sweeps env hn
    exact ⟨r, s', hrun, h.ids fun _ => rfl, h.uneventful, h.busy⟩
  | emptyFields =>
    obtain ⟨r, s', hrun, h⟩ := emptyFields_sweeps env hn
    exact ⟨r, s', hrun, h.ids fun _ => rfl, h.uneventful, h.busy⟩
  | duplicates =>
    obtain ⟨r, s', hrun, h⟩ := duplicates_sweeps env hn
    exact ⟨r, s', hrun, h.ids fun _ => rfl, h.uneventful, h.busy⟩
  | general =>
    obtain ⟨s₁, s₂, s₃, s', q₁, q₂, q₃, q₄, hrun, h⟩ := general_overhaul env hn
    exact ⟨_, s', hrun, h.ids, h.uneventful, h.busy⟩

/-! ### What a run leaves -/

theorem settled_iff (hn : (s.tables.contacts.map (·.id)).Nodup)
    (htrace : ∀ c ∈ s'.tables.contacts, ∃ x ∈ s.tables.contacts, c.id = x.id ∧
      (Lacks c.fields ↔ Unsettled kind x.fields c.active)) :
    (∀ c ∈ s'.tables.contacts, ¬ Lacks c.fields) ↔ Settled kind s s' := by
  constructor
  · intro hfull x hx c hc hid hleft
    obtain ⟨y, hy, hcy, hlacks⟩ := htrace c hc
    obtain rfl := Tables.eq_of_id hn hx hy (hid.symm.trans hcy)
    exact hfull c hc (hlacks.2 hleft)
  · intro hsettled c hc hlacking
    obtain ⟨x, hx, hid, hlacks⟩ := htrace c hc
    exact hsettled x hx c hc hid (hlacks.1 hlacking)

/-- The pass that fills what is missing, over all contacts. -/
theorem Sweeps.filled (h : Sweeps (edited emptyRule now) (lacking s.tables.contacts) s s' r)
    (he : r.errors = 0) (hc : c ∈ s'.tables.contacts) :
    ∃ x ∈ s.tables.contacts, Renewed x c ∧ c.fields = x.fields.apply (emptyRule x.fields) := by
  obtain ⟨x, hx, hrenewed, hfields⟩ := h.ruled plain_emptyRule he hc
  refine ⟨x, hx, hrenewed, hfields.trans ?_⟩
  split
  next => rfl
  next hsel => rw [apply_emptyRule_of_not_lacks fun hlacks => hsel (lacks_iff.1 hlacks)]

theorem present_tidied_eq_none_iff {f : Text → Text} {x : Option Text} :
    present (tidied f x) = none ↔ present x = none ∨ ∃ t, present x = some t ∧ f t = [] := by
  cases hx : present x with
  | none => simp [tidied_of_none hx, hx]
  | some t => simp [tidied_of_some hx, present_eq_none_iff]

/-- What normal forms leave of what was filled. -/
theorem lacks_normal_iff :
    Lacks ((v.apply (emptyRule v)).apply (normalRule (v.apply (emptyRule v)))) ↔
      Hollow v ∨ Vague v := by
  have hname : present (some (fillNameAndEmail v.name v.email).1) =
    some (fillNameAndEmail v.name v.email).1 := present_of_ne (fill_name_ne_nil v)
  have hemail : present (fillNameAndEmail v.name v.email).2 = (fillNameAndEmail v.name v.email).2 :=
    present_present _
  have hhollow := lacks_fill_iff (v := v)
  rw [apply_emptyRule, Lacks, hname, hemail] at hhollow
  rw [← hhollow, apply_emptyRule, apply_normalRule, Lacks, present_tidied_eq_none_iff,
    present_tidied_eq_none_iff, hname, hemail, Vague]
  simp only [reduceCtorEq, false_or, Option.some.injEq, exists_eq_left']
  rw [or_left_comm]

/-- A general cleanup without errors, contact by contact: behind the pass over addresses, what is
missing is filled, and what is in use is brought into normal form. -/
theorem Overhaul.finish (h : Overhaul env s s₁ s₂ s₃ s' q₁ q₂ q₃ q₄) (h₂ : q₂.errors = 0)
    (h₄ : q₄.errors = 0) (hc : c ∈ s'.tables.contacts) :
    ∃ x ∈ s.tables.contacts, ∃ v : Fields, c.id = x.id ∧ v.name = x.fields.name ∧
      v.email = x.fields.email ∧ c.fields = if c.active
        then (v.apply (emptyRule v)).apply (normalRule (v.apply (emptyRule v)))
        else v.apply (emptyRule v) := by
  obtain ⟨c₃, hc₃, hr₃, hfields₃⟩ := h.normal.ruled plain_normalRule h₄ hc
  obtain ⟨c₂, hc₂, hdropped⟩ := h.dropped.behind hc₃
  have hkept : c₃.id = c₂.id ∧ c₃.fields = c₂.fields := by
    obtain rfl | ⟨-, rfl⟩ := hdropped
    · exact ⟨rfl, rfl⟩
    · exact ⟨rfl, rfl⟩
  obtain ⟨c₁, hc₁, hr₁, hfields₁⟩ := h.filled.filled h₂ hc₂
  obtain ⟨x, hx, hfirst⟩ := h.addresses.behind hc₁
  have hx₁ : c₁.id = x.id ∧ c₁.fields.name = x.fields.name ∧ c₁.fields.email = x.fields.email := by
    obtain rfl | ⟨-, rfl⟩ := hfirst
    · exact ⟨rfl, rfl, rfl⟩
    · rw [edited_fields plain_addressRule, apply_addressRule]
      exact ⟨rfl, rfl, rfl⟩
  refine ⟨x, hx, c₁.fields, hr₃.id.trans (hkept.1.trans (hr₁.id.trans hx₁.1)), hx₁.2.1, hx₁.2.2, ?_⟩
  rw [hfields₃, hkept.2, hfields₁, hr₃.active]

/-- Which contacts lack something after a general cleanup without errors. -/
theorem Overhaul.trace (h : Overhaul env s s₁ s₂ s₃ s' q₁ q₂ q₃ q₄) (h₂ : q₂.errors = 0)
    (h₄ : q₄.errors = 0) (hc : c ∈ s'.tables.contacts) :
    ∃ x ∈ s.tables.contacts, c.id = x.id ∧
      (Lacks c.fields ↔ Unsettled .general x.fields c.active) := by
  obtain ⟨x, hx, v, hid, hname, hemail, hfields⟩ := h.finish h₂ h₄ hc
  refine ⟨x, hx, hid, ?_⟩
  have hleft : Unsettled .general x.fields c.active ↔ Hollow v ∨ c.active ∧ Vague v := by
    simp only [Unsettled, Hollow, Vague, hname, hemail]
  rw [hleft, hfields]
  cases c.active with
  | true =>
    simp only [if_true, true_and]
    exact lacks_normal_iff
  | false =>
    simp only [Bool.false_eq_true, if_false, false_and, or_false]
    exact lacks_fill_iff

/-- What holds of all addresses behind the pass over them holds of them in the end. -/
theorem Overhaul.addressed {P : Option Text → Prop} (h : Overhaul env s s₁ s₂ s₃ s' q₁ q₂ q₃ q₄)
    (hs : ∀ c ∈ s₁.tables.contacts, P c.fields.address) :
    ∀ c ∈ s'.tables.contacts, P c.fields.address := by
  refine h.normal.preserves ?_ (h.dropped.preserves ?_ (h.filled.preserves ?_ hs))
  · intro c hc
    rwa [edited_fields plain_normalRule, apply_normalRule]
  · exact fun c hc => hc
  · intro c hc
    rwa [edited_fields plain_emptyRule, apply_emptyRule]

theorem Overhaul.unescaped (h : Overhaul env s s₁ s₂ s₃ s' q₁ q₂ q₃ q₄)
    (hd : env.dialect.Discerns) (he : q₁.errors = 0) :
    ∀ c ∈ s'.tables.contacts, Unescaped env c.fields.address :=
  h.addressed (h.addresses.unescaped hd he)

/-- After a run without errors there is nothing to do unless a contact is left. -/
theorem idle_iff_settled (hn : (s.tables.contacts.map (·.id)).Nodup) (hd : env.dialect.Discerns)
    (h : run env kind s = .ok r s') (he : r.errors = 0) :
    Idle env kind s'.tables ↔ Settled kind s s' := by
  cases kind with
  | addresses =>
    obtain ⟨r, s', hrun, hs⟩ := addresses_sweeps env hn
    cases hrun.symm.trans h
    exact iff_of_true (escaped_eq_nil_iff.2 (hs.unescaped hd he)) fun _ _ _ _ _ => id
  | emptyFields =>
    obtain ⟨r, s', hrun, hs⟩ := emptyFields_sweeps env hn
    cases hrun.symm.trans h
    refine lacking_eq_nil_iff.trans (settled_iff hn fun c hc => ?_)
    obtain ⟨x, hx, hrenewed, hfields⟩ := hs.filled he hc
    refine ⟨x, hx, hrenewed.id, ?_⟩
    rw [hfields]
    exact lacks_fill_iff
  | duplicates =>
    obtain ⟨r, s', hrun, hs⟩ := duplicates_sweeps env hn
    cases hrun.symm.trans h
    exact iff_of_true (hs.distinct hn he) fun _ _ _ _ _ => id
  | general =>
    obtain ⟨s₁, s₂, s₃, s', q₁, q₂, q₃, q₄, hrun, ho⟩ := general_overhaul env hn
    cases hrun.symm.trans h
    have herrors : q₁.errors + q₂.errors + q₃.errors + q₄.errors = 0 := he
    rw [Nat.add_eq_zero_iff, Nat.add_eq_zero_iff, Nat.add_eq_zero_iff] at herrors
    obtain ⟨⟨⟨h₁, h₂⟩, h₃⟩, h₄⟩ := herrors
    have hn₂ : (s₂.tables.contacts.map (·.id)).Nodup := ho.ids_filled ▸ hn
    have hescaped := escaped_eq_nil_iff.2 (ho.unescaped hd h₁)
    have hdistinct := ho.normal.distinct_normal (ho.dropped.distinct hn₂ h₃)
    have hregular := irregular_eq_nil_iff.2 (ho.normal.regular h₄)
    rw [← settled_iff hn fun c hc => ho.trace h₂ h₄ hc, ← lacking_eq_nil_iff]
    exact ⟨fun h => h.2.1, fun h => ⟨hescaped, h, hdistinct, hregular⟩⟩

theorem escaped_congr (h : env'.dialect = env.dialect) (cs : List Contact) :
    escaped env' cs = escaped env cs := by
  unfold escaped hasEscape
  rw [h]

theorem idle_congr (h : env'.dialect = env.dialect) {t : Tables} :
    Idle env' kind t ↔ Idle env kind t := by
  cases kind <;> simp only [Idle, escaped_congr h]

/-- What one cleanup does, as a transaction whose commit succeeds. -/
theorem perform_cleanup (env : Conditions) (kind : Kind) (hn : (s.tables.contacts.map (·.id)).Nodup)
    (hc : ∀ n, env.refusal n .commit = none) :
    ∃ r s', (Operation.cleanup (Text.ofString kind.title)).perform env s = .ok (.report kind r) s' ∧
      s'.tables.contacts.map (·.id) = s.tables.contacts.map (·.id) ∧
      (Idle env kind s.tables → Uneventful s s' r) ∧
      (¬ Idle env kind s.tables → 0 < r.cleaned + r.errors) ∧
      (env.dialect.Discerns → r.errors = 0 → (Idle env kind s'.tables ↔ Settled kind s s')) := by
  obtain ⟨r, t, hrun, hids, hidle, hbusy⟩ := run_idle env kind hn
  have hsettled (hd : env.dialect.Discerns) (he : r.errors = 0) := idle_iff_settled hn hd hrun he
  refine ⟨r, { t with tried := t.tried + 1 },
    Action.transaction_of_ok (run_cleanup kind hrun) (hc _), hids, fun h => ?_, hbusy, hsettled⟩
  exact ⟨(hidle h).tables, (hidle h).cleaned, (hidle h).errors⟩

end Cleanup

section

open Cleanup

variable {env env' : Conditions} {s : Store}

/-- A cleanup that is run again comes to no contact and leaves everything as it is, if the first run
left no contact for it; otherwise, it comes to some contact again. -/
theorem cleanup_twice (kind : Kind) (hn : (s.tables.contacts.map (·.id)).Nodup)
    (hd : env.dialect.Discerns) (hsame : env'.dialect = env.dialect)
    (hc : ∀ n, env.refusal n .commit = none) (hc' : ∀ n, env'.refusal n .commit = none) :
    ∃ r s₁ r' s₂,
      (Operation.cleanup (Text.ofString kind.title)).perform env s = .ok (.report kind r) s₁ ∧
      (Operation.cleanup (Text.ofString kind.title)).perform env' s₁ = .ok (.report kind r') s₂ ∧
      (r.errors = 0 → (Settled kind s s₁ → Uneventful s₁ s₂ r') ∧
        (¬ Settled kind s s₁ → 0 < r'.cleaned + r'.errors)) := by
  obtain ⟨r, s₁, hrun, hids, -, -, hsettled⟩ := perform_cleanup env kind hn hc
  obtain ⟨r', s₂, hrun', -, hidle, hbusy, -⟩ := perform_cleanup env' kind (hids ▸ hn) hc'
  rw [idle_congr hsame] at hidle hbusy
  refine ⟨r, s₁, r', s₂, hrun, hrun', fun he => ?_⟩
  rw [hsettled hd he] at hidle hbusy
  exact ⟨hidle, hbusy⟩

/-- How many contacts a cleanup reports as cleaned, and how many errors. -/
def tally : EStateM.Result Failure Store Answer → Option (Nat × Nat)
  | .ok (.report _ r) _ => some (r.cleaned, r.errors)
  | _ => none

/-- Contacts with something to do for every pass: an escaped line break in an address, a name without
an e-mail address, two spellings of one address, and a name with blanks around it. -/
def disordered : List Step :=
  [⟨.fair 1, .createContact
      { email := some ['E'], address := some (Text.ofString "1 Way 0D=0A Town") }⟩,
    ⟨.fair 2, .createContact { name := some ['N'] }⟩,
    ⟨.fair 3, .createContact { name := some [' ', 'M'], email := some [' ', 'e'] }⟩]

theorem cleanup_twice_disordered : ∃ r s₁ r' s₂,
    (Operation.cleanup (Text.ofString Kind.general.title)).perform (.fair 4)
      (Store.run {} disordered) = .ok (.report .general r) s₁ ∧ r.cleaned = 5 ∧ r.errors = 0 ∧
    (Operation.cleanup (Text.ofString Kind.general.title)).perform (.fair 5) s₁ =
      .ok (.report .general r') s₂ ∧ r'.cleaned = 0 ∧ r'.errors = 0 ∧ s₂.tables = s₁.tables := by
  have hn : ((Store.run {} disordered).tables.contacts.map (·.id)).Nodup := by decide
  have hd : (Conditions.fair 4).dialect.Discerns := Search.Dialect.discerns_plain
  have hsame : (Conditions.fair 5).dialect = (Conditions.fair 4).dialect := rfl
  obtain ⟨r, s₁, r', s₂, hrun, hrun', hsettled⟩ :=
    cleanup_twice .general hn hd hsame (fun _ => rfl) (fun _ => rfl)
  have htally : tally ((Operation.cleanup (Text.ofString Kind.general.title)).perform (.fair 4)
      (Store.run {} disordered)) = some (5, 0) := by
    decide +kernel
  rw [hrun] at htally
  obtain ⟨hcleaned, herrors⟩ := Prod.mk.inj (Option.some.inj htally)
  have hclear : ∀ c ∈ (Store.run {} disordered).tables.contacts,
      ¬ Hollow c.fields ∧ ¬ Vague c.fields := by
    decide +kernel
  have hidle := (hsettled herrors).1 fun c hc _ _ _ hleft =>
    hleft.elim (hclear c hc).1 fun hvague => (hclear c hc).2 hvague.2
  exact ⟨r, s₁, r', s₂, hrun, hcleaned, herrors, hrun', hidle.cleaned, hidle.errors, hidle.tables⟩

/-- A contact of whom nothing is known comes into the store. -/
def stranger : List Step := [⟨.fair 1, .createContact {}⟩]

/-- A second run may clean contacts that the first one has cleaned. -/
theorem cleanup_again : ¬ ∀ (kind : Kind) (env env' : Conditions) (s s₁ s₂ : Store) (r r' : Report),
    (s.tables.contacts.map (·.id)).Nodup → env'.dialect = env.dialect →
    (Operation.cleanup (Text.ofString kind.title)).perform env s = .ok (.report kind r) s₁ →
    (Operation.cleanup (Text.ofString kind.title)).perform env' s₁ = .ok (.report kind r') s₂ →
    r.errors = 0 → r'.errors = 0 → r'.cleaned = 0 := by
  intro h
  have hn : ((Store.run {} stranger).tables.contacts.map (·.id)).Nodup := by decide
  obtain ⟨r, s₁, hrun, hids, -⟩ := perform_cleanup (.fair 2) .emptyFields hn fun _ => rfl
  obtain ⟨r', s₂, hrun', -⟩ :=
    perform_cleanup (.fair 3) .emptyFields (hids ▸ hn) fun _ => rfl
  have hnext := next_of_ok hrun
  have htally : tally ((Operation.cleanup (Text.ofString Kind.emptyFields.title)).perform (.fair 2)
      (Store.run {} stranger)) = some (1, 0) := by
    decide +kernel
  have htally' : tally ((Operation.cleanup (Text.ofString Kind.emptyFields.title)).perform (.fair 3)
      ((Store.run {} stranger).next
        ⟨.fair 2, .cleanup (Text.ofString Kind.emptyFields.title)⟩)) = some (1, 0) := by
    decide +kernel
  rw [hrun] at htally
  rw [hnext, hrun'] at htally'
  obtain ⟨-, herrors⟩ := Prod.mk.inj (Option.some.inj htally)
  obtain ⟨hcleaned, herrors'⟩ := Prod.mk.inj (Option.some.inj htally')
  have hnone := h .emptyFields (.fair 2) (.fair 3) _ s₁ s₂ r r' hn rfl hrun hrun' herrors herrors'
  rw [hcleaned] at hnone
  cases hnone

end

end AddressBook
