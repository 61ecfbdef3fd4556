import AddressBook.Proofs.Cleanup.Repeating
import AddressBook.Proofs.Cleanup.Survivors

/-!
What a general cleanup makes of the contacts in use if no write fails. Fields are in normal form, no
e-mail address is there twice, and no address holds an escaped line break that the store finds.
Everybody has a name; but names are filled in before they are trimmed, so that of one that is
nothing but blanks nothing is left.
-/
namespace AddressBook.Cleanup

open AddressBook.Action

/-- Nothing but blanks. -/
def Blank (t : Text) : Prop := ∀ c ∈ t, Text.isBlank c

/-- The name of a contact is blank: the one it has, or the one that its e-mail address suggests. -/
def Nameless (v : Fields) : Prop := Blank (fillNameAndEmail v.name v.email).1

/-- An address, if there is one, holds no escaped line break. -/
def Unbroken (address : Option Text) : Prop :=
  ∀ a, address = some a → lineEscape.occursIn a = false

/-- What a general cleanup makes of field values. -/
structure Tidy (v w : Fields) : Prop where
  name : ∃ n, w.name = some n ∧ name n = n ∧ (Blank n ↔ Nameless v)
  email : w.email.map email = w.email
  phone : w.phone.map phone = w.phone
  address : Unbroken w.address

/-- The store finds the escaped line breaks in the addresses of contacts. -/
def Finds (env : Conditions) (cs : List Contact) : Prop :=
  ∀ c ∈ cs, ∀ a, c.fields.address = some a → lineEscape.occursIn a → hasEscape env (some a)

/-- No two contacts in use have the same e-mail address, unless it is blank. -/
def DistinctMails (cs : List Contact) : Prop :=
  ∀ c ∈ cs, ∀ d ∈ cs, c.active → d.active → ∀ m, c.fields.email = some m →
    d.fields.email = some m → ¬ Blank m → c = d

variable {env : Conditions} {s s₁ s₂ s₃ s' : Store} {q₁ q₂ q₃ q₄ : Report} {c d : Contact}
  {t : Tables} {v : Fields} {x : Option Text} {n : Text}

instance : Decidable (Blank n) := List.decidableBAll _ n

theorem blank_name : Blank (name n) ↔ Blank n := by
  rw [Blank, ← name_eq_nil_iff, name_name, name_eq_nil_iff, Blank]

theorem fill_name_of_present (h : present v.name = some n) :
    (fillNameAndEmail v.name v.email).1 = n := by
  cases he : present v.email with
  | none => rw [fill_of_name he h]
  | some e =>
    rw [fill_of_email v.name he, h, Option.some_or, present_of_ne (present_eq_some h).2,
      Option.getD_some]

/-- Whose name is blank. -/
theorem nameless_iff : Nameless v ↔ (∃ n, present v.name = some n ∧ Blank n) ∨
    present v.name = none ∧ ∃ e, present v.email = some e ∧ nameFromEmail e ≠ [] ∧
      Blank (nameFromEmail e) := by
  have hunknown : ¬ Blank unknownName := by decide
  unfold Nameless
  cases hn : present v.name with
  | some n => simp [fill_name_of_present hn]
  | none =>
    cases he : present v.email with
    | none => simp [fill_of_none he hn, hunknown]
    | some e =>
      rw [fill_of_email v.name he, hn]
      cases hmade : nameFromEmail e with
      | nil => simp [present, hmade, hunknown]
      | cons a rest => simp [present, hmade]

theorem map_tidied {f : Text → Text} (hf : ∀ t, f (f t) = f t) (hnil : f [] = []) :
    (tidied f x).map f = tidied f x := by
  match x with
  | none => rfl
  | some [] => simp [tidied, present, hnil]
  | some (a :: rest) => simp [tidied, present, hf]

/-! ### What the store finds -/

theorem finds_of_plain (h : env.dialect = .plain) (cs : List Contact) : Finds env cs := by
  intro c _ a _ hin
  rw [hasEscape, h]
  exact (Search.Like.contains_escape lineEscape a).trans hin

/-! ### Field values -/

/-- What is filled and in normal form. -/
theorem tidy_normal (ha : Unbroken v.address) :
    Tidy v ((v.apply (emptyRule v)).apply (normalRule (v.apply (emptyRule v)))) := by
  rw [apply_normalRule, apply_emptyRule]
  refine ⟨⟨_, tidied_of_some (present_of_ne (fill_name_ne_nil v)), name_name _, blank_name⟩,
    map_tidied email_email rfl, map_tidied phone_phone rfl, ha⟩

theorem Tidy.congr {w v' : Fields} (h : Tidy v w) (hname : v.name = v'.name)
    (hemail : v.email = v'.email) : Tidy v' w := by
  have hnameless : Nameless v ↔ Nameless v' := by rw [Nameless, Nameless, hname, hemail]
  obtain ⟨n, hn, hnormal, hblank⟩ := h.name
  exact ⟨⟨n, hn, hnormal, hblank.trans hnameless⟩, h.email, h.phone, h.address⟩

/-! ### All contacts -/

/-- Behind the pass over addresses, none holds an escaped line break. -/
theorem Sweeps.unbroken {now : Instant} {r : Report}
    (h : Sweeps (edited addressRule now) (escaped env s.tables.contacts) s s' r)
    (hfinds : Finds env s.tables.contacts) (he : r.errors = 0) :
    ∀ c ∈ s'.tables.contacts, Unbroken c.fields.address := by
  intro c hc a ha
  obtain ⟨x, hx, -, hfields⟩ := h.ruled plain_addressRule he hc
  rw [hfields] at ha
  split at ha
  next =>
    rw [apply_addressRule] at ha
    obtain ⟨b, -, rfl⟩ := Option.map_eq_some_iff.1 ha
    exact not_occursIn_address b
  next hsel =>
    rw [ha] at hsel
    exact Bool.eq_false_iff.2 fun hin => hsel (hfinds x hx a ha hin)

/-- Without duplicates, normal forms of e-mail addresses are distinct. -/
theorem distinctMails_of_repeats (hn : (t.contacts.map (·.id)).Nodup)
    (h : repeats [] (withEmail t) = [])
    (hmails : ∀ c ∈ t.contacts, c.active → c.fields.email.map email = c.fields.email) :
    DistinctMails t.contacts := by
  intro c hc d hd hcactive hdactive m hcm hdm hblank
  have hm : m ≠ [] := by
    rintro rfl
    exact hblank fun _ hmem => nomatch hmem
  have hholds {x : Contact} (hx : x ∈ t.contacts) (hactive : x.active)
      (hxm : x.fields.email = some m) : Holds m x := by
    have hnormal := hmails x hx hactive
    rw [hxm, Option.map_some, Option.some.injEq] at hnormal
    exact ⟨hactive, by rw [mailOf, hxm, Option.getD_some, hnormal]⟩
  have hfirst {x y : Contact} (hx : x ∈ t.contacts) (hy : y ∈ t.contacts) (hxm : Holds m x)
      (hym : Holds m y) (hne : y ≠ x) : Older t x y := by
    have hnotMem : x ∉ repeats [] (withEmail t) := by simp [h]
    exact (first_of_not_mem_repeats (withEmail_aged hn) (mem_withEmail_of_holds hx hxm hm)
      (hxm.2 ▸ hm) hnotMem).2 y (mem_withEmail_of_holds hy hym hm) (hym.2.trans hxm.2.symm) hne
  have hcm := hholds hc hcactive hcm
  have hdm := hholds hd hdactive hdm
  by_contra hne
  exact (hfirst hc hd hcm hdm (Ne.symm hne)).asymm (hfirst hd hc hdm hcm hne)

/-- A general cleanup of which no write fails brings the fields of all contacts in use into normal
form and leaves no e-mail address twice. Those have a name that is not blank for whom it is not
blank when it is filled in. -/
theorem general_tidies (env : Conditions) (hn : (s.tables.contacts.map (·.id)).Nodup)
    (hfinds : Finds env s.tables.contacts) :
    ∃ r s', run env .general s = .ok r s' ∧ (r.errors = 0 →
      (∀ c ∈ s'.tables.contacts, c.active →
        ∃ x ∈ s.tables.contacts, c.id = x.id ∧ Tidy x.fields c.fields) ∧
      DistinctMails s'.tables.contacts) := by
  obtain ⟨s₁, s₂, s₃, s', q₁, q₂, q₃, q₄, hrun, ho⟩ := general_overhaul env hn
  refine ⟨_, s', hrun, fun he => ?_⟩
  have herrors : q₁.errors + q₂.errors + q₃.errors + q₄.errors = 0 := he
  rw [Nat.add_eq_zero_iff, Nat.add_eq_zero_iff, Nat.add_eq_zero_iff] at herrors
  obtain ⟨⟨⟨h₁, h₂⟩, h₃⟩, h₄⟩ := herrors
  have hunbroken := ho.addressed (ho.addresses.unbroken hfinds h₁)
  have htidy : ∀ c ∈ s'.tables.contacts, c.active →
      ∃ x ∈ s.tables.contacts, c.id = x.id ∧ Tidy x.fields c.fields := by
    intro c hc hactive
    obtain ⟨x, hx, v, hid, hname, hemail, hfields⟩ := ho.finish h₂ h₄ hc
    rw [if_pos hactive] at hfields
    have haddress : Unbroken v.address := by
      have hkept := hunbroken c hc
      rwa [hfields, apply_normalRule, apply_emptyRule] at hkept
    refine ⟨x, hx, hid, ?_⟩
    rw [hfields]
    exact (tidy_normal haddress).congr hname hemail
  refine ⟨htidy, ?_⟩
  have hdistinct := ho.normal.distinct_normal (ho.dropped.distinct (ho.ids_filled ▸ hn) h₃)
  refine distinctMails_of_repeats (ho.ids ▸ hn) hdistinct fun c hc hactive => ?_
  obtain ⟨x, -, -, htidied⟩ := htidy c hc hactive
  exact htidied.email

/-- How many errors a run reports, and what the contacts in use are called behind it. -/
def naming : EStateM.Result Failure Store Report → Option (Nat × List (Option Text))
  | .ok r s' => some (r.errors, (s'.tables.contacts.filter (·.active)).map (·.fields.name))
  | .error _ _ => none

/-- Two contacts are created with one e-mail address, and with fields that are not in normal form. -/
def untidy : List Step :=
  [⟨.fair 1, .createContact { name := some (Text.ofString " Ann  Lee"), email := some ['E'] }⟩,
    ⟨.fair 2, .createContact { email := some ['e'], phone := some (Text.ofString "x 1") }⟩]

theorem general_tidies_untidy : ∃ r s', run (.fair 3) .general (Store.run {} untidy) = .ok r s' ∧
    r.errors = 0 ∧ (∃ c ∈ s'.tables.contacts, c.active) ∧
    (∀ c ∈ s'.tables.contacts, c.active → ∃ x ∈ (Store.run {} untidy).tables.contacts,
      c.id = x.id ∧ Tidy x.fields c.fields) ∧ DistinctMails s'.tables.contacts := by
  obtain ⟨r, s', hrun, htidies⟩ := general_tidies (s := Store.run {} untidy) (.fair 3) (by decide)
    (finds_of_plain rfl _)
  have hnaming : naming (run (.fair 3) .general (Store.run {} untidy)) =
      some (0, [some (Text.ofString "Ann Lee")]) := by
    decide +kernel
  rw [hrun] at hnaming
  obtain ⟨herrors, hnames⟩ := Prod.mk.inj (Option.some.inj hnaming)
  have hactive : ∃ c ∈ s'.tables.contacts, c.active := by
    obtain ⟨c, hc, -⟩ := List.mem_map.1 (hnames ▸ List.mem_singleton_self _)
    exact ⟨c, List.mem_filter.1 hc⟩
  exact ⟨r, s', hrun, herrors, hactive, htidies herrors⟩

/-- A contact whose name is one blank comes into the store. -/
def blankNamed : List Step :=
  [⟨.fair 1, .createContact
    { name := some [' '], email := some (Text.ofString "ann.lee@example.com") }⟩]

/-- A general cleanup may leave a contact with an empty name. -/
theorem general_leaves_nameless : ¬ ∀ (env : Conditions) (s s' : Store) (r : Report),
    (s.tables.contacts.map (·.id)).Nodup → Finds env s.tables.contacts →
    run env .general s = .ok r s' → r.errors = 0 →
    ∀ c ∈ s'.tables.contacts, c.active → ∃ n, c.fields.name = some n ∧ ¬ Blank n := by
  intro h
  have hnaming : naming (run (.fair 2) .general (Store.run {} blankNamed)) = some (0, [some []]) := by
    decide +kernel
  cases hrun : run (.fair 2) .general (Store.run {} blankNamed) with
  | error e s' =>
    rw [hrun] at hnaming
    cases hnaming
  | ok r s' =>
    rw [hrun] at hnaming
    obtain ⟨herrors, hnames⟩ := Prod.mk.inj (Option.some.inj hnaming)
    obtain ⟨c, hc, hname⟩ := List.mem_map.1 (hnames ▸ List.mem_singleton_self _)
    obtain ⟨hc, hactive⟩ := List.mem_filter.1 hc
    obtain ⟨n, hn, hblank⟩ := h (.fair 2) _ s' r (by decide) (finds_of_plain rfl _) hrun herrors c
      hc hactive
    obtain rfl : n = [] := Option.some.inj (hn.symm.trans hname)
    exact hblank fun _ hmem => nomatch hmem

end AddressBook.Cleanup
