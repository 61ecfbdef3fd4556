import AddressBook.Proofs.Cleanup.Normal
import AddressBook.Proofs.Cleanup.Rules
import AddressBook.Proofs.Search.Like
import Mathlib.Data.List.Nodup

/-!
When there is nothing to do for a pass of a cleanup, and that it is so after the pass. The exception
is the pass that fills missing names and e-mail addresses: without either, there is nothing to make
the other one from.
-/
namespace AddressBook

namespace Cleanup

open Search Text

variable {env : Conditions} {edit : Contact → Contact} {rule : Fields → Changes} {s s' : Store}
  {r : Report} {c : Contact} {cs : List Contact} {p : Contact → Bool} {P : Contact → Prop}
  {v : Fields} {seen : List Text} {now : Instant} {due : List Contact}

/-- A contact lacks a name or an e-mail address. -/
def Lacks (v : Fields) : Prop := present v.name = none ∨ present v.email = none

/-- A contact has neither a name nor an e-mail address. -/
def Hollow (v : Fields) : Prop := present v.name = none ∧ present v.email = none

/-- A contact has a name or an e-mail address of which nothing is left in normal form. What it lacks
is filled before. -/
def Vague (v : Fields) : Prop :=
  name (fillNameAndEmail v.name v.email).1 = [] ∨
    ∃ m, (fillNameAndEmail v.name v.email).2 = some m ∧ email m = []

instance {v : Fields} : Decidable (Hollow v) := inferInstanceAs (Decidable (_ ∧ _))

instance {v : Fields} : Decidable (Vague v) :=
  decidable_of_iff (name (fillNameAndEmail v.name v.email).1 = [] ∨
    (fillNameAndEmail v.name v.email).2.any (fun m => decide (email m = [])) = true) <| by
      simp only [Option.any_eq_true, decide_eq_true_eq, Vague]

/-- An address is free of escaped line breaks, as far as the store finds them. -/
def Unescaped (env : Conditions) (a : Option Text) : Prop :=
  hasEscape env a → a.map address = a

/-- Field values are in normal form. -/
def Regular (v : Fields) : Prop := v.apply (normalRule v) = v

/-! ### Passes without errors -/

theorem Sweeps.mapped (h : Sweeps edit (s.tables.contacts.filter p) s s' r) (he : r.errors = 0) :
    s'.tables.contacts = s.tables.contacts.map fun c => if p c then edit c else c := by
  rw [(h.whole he).1]
  apply List.map_congr_left
  intro c hc
  simp only [List.mem_filter, hc, true_and]

/-- What editing preserves holds after a pass if it held before. -/
theorem Sweeps.preserves (h : Sweeps edit due s s' r)
    (hedit : ∀ c, P c → P (edit c)) (hs : ∀ c ∈ s.tables.contacts, P c) :
    ∀ c ∈ s'.tables.contacts, P c := by
  intro c hc
  obtain ⟨x, hx, rfl | ⟨-, rfl⟩⟩ := h.behind hc
  · exact hs _ hx
  · exact hedit x (hs x hx)

/-- A pass without errors applies its rule to all contacts that it selects. -/
theorem Sweeps.ruled {sel : Contact → Bool} (hp : Plain rule)
    (h : Sweeps (edited rule now) (s.tables.contacts.filter fun c => sel c && needs rule c) s s' r)
    (he : r.errors = 0) (hc : c ∈ s'.tables.contacts) :
    ∃ x ∈ s.tables.contacts, Renewed x c ∧
      c.fields = if sel x then x.fields.apply (rule x.fields) else x.fields := by
  rw [h.mapped he] at hc
  obtain ⟨x, hx, rfl⟩ := List.mem_map.1 hc
  refine ⟨x, hx, ?_⟩
  by_cases hsel : sel x
  · by_cases hneeds : needs rule x
    · simp only [hsel, hneeds, Bool.and_true, if_true]
      exact ⟨renewed_edited .., edited_fields hp _ _⟩
    · simp only [hsel, hneeds, Bool.and_false, if_true, if_false, Bool.false_eq_true]
      rw [Bool.not_eq_true, needs_eq_false_iff hp] at hneeds
      exact ⟨.refl _, hneeds.symm⟩
  · simp only [hsel, Bool.false_and, if_false, Bool.false_eq_true]
    exact ⟨.refl _, trivial⟩

/-! ### Addresses -/

theorem escaped_eq_nil_iff :
    escaped env cs = [] ↔ ∀ c ∈ cs, Unescaped env c.fields.address := by
  have hrest (c : Contact) : needs addressRule c = false ↔
      c.fields.address.map address = c.fields.address := by
    rw [needs_eq_false_iff plain_addressRule, apply_addressRule]
    exact ⟨congrArg Fields.address, fun h => by rw [h]⟩
  simp [escaped, List.filter_eq_nil_iff, Unescaped, hrest]

theorem zero_notMem_lineEscape : '\x00' ∉ lineEscape := by decide

/-- A cleaned address is never selected. -/
theorem not_hasEscape_address (hd : env.dialect.Discerns) (a : Text) :
    hasEscape env (some (address a)) = false := by
  rw [← Bool.not_eq_true]
  intro h
  have hfound := hd lineEscape _ zero_notMem_lineEscape h
  rw [not_occursIn_address] at hfound
  cases hfound

theorem unescaped_address (hd : env.dialect.Discerns) (a : Option Text) :
    Unescaped env (a.map address) := by
  intro h
  cases a with
  | none => cases h
  | some a =>
    have hnot := not_hasEscape_address hd a
    rw [Option.map_some, hnot] at h
    cases h

/-- After the pass over addresses, no escaped line break is left. -/
theorem Sweeps.unescaped
    (h : Sweeps (edited addressRule now) (escaped env s.tables.contacts) s s' r)
    (hd : env.dialect.Discerns) (he : r.errors = 0) :
    ∀ c ∈ s'.tables.contacts, Unescaped env c.fields.address := by
  intro c hc
  obtain ⟨x, -, -, hfields⟩ := h.ruled plain_addressRule he hc
  rw [hfields]
  split
  next =>
    rw [apply_addressRule]
    exact unescaped_address hd _
  next hsel => exact fun hescape => absurd hescape hsel

/-! ### Missing names and e-mail addresses -/

theorem fill_name_ne_nil (v : Fields) : (fillNameAndEmail v.name v.email).1 ≠ [] := by
  have hpresent {x : Option Text} : (present x).getD unknownName ≠ [] := by
    cases hx : present x with
    | none => decide
    | some t => exact (present_eq_some hx).2
  exact hpresent

theorem lacks_fill_iff : Lacks (v.apply (emptyRule v)) ↔ Hollow v := by
  have hname := present_of_ne (fill_name_ne_nil v)
  rw [apply_emptyRule]
  simp only [Lacks, Hollow, hname, reduceCtorEq, false_or]
  cases he : present v.email with
  | some e =>
    have hpresent : present (some e) = some e := he ▸ present_present v.email
    simp [fill_of_email v.name he, hpresent]
  | none =>
    cases hn : present v.name with
    | some n => simp [fill_of_name he hn, present_of_ne (placeholderEmail_ne_nil n)]
    | none => simp [fill_of_none he hn, present]

theorem apply_emptyRule_of_not_lacks (h : ¬ Lacks v) : v.apply (emptyRule v) = v := by
  rw [Lacks, not_or] at h
  obtain ⟨n, hn⟩ := Option.ne_none_iff_exists'.1 h.1
  obtain ⟨e, he⟩ := Option.ne_none_iff_exists'.1 h.2
  rw [apply_emptyRule, fill_of_email v.name he, hn]
  simp only [Option.some_or, present_of_ne (present_eq_some hn).2, Option.getD_some]
  rw [← (present_eq_some hn).1, ← (present_eq_some he).1]

theorem lacks_iff : Lacks c.fields ↔
    ((present c.fields.name).isNone || (present c.fields.email).isNone) = true := by
  simp [Lacks]

/-- What is missing can always be filled in part. -/
theorem needs_emptyRule (h : Lacks c.fields) : needs emptyRule c = true := by
  rw [← Bool.not_eq_false, needs_eq_false_iff plain_emptyRule]
  intro hsame
  obtain ⟨hname, hemail⟩ := lacks_fill_iff.1 (hsame.symm ▸ h)
  have hfilled := present_of_ne (fill_name_ne_nil c.fields)
  rw [apply_emptyRule] at hsame
  rw [← hsame] at hname
  simp [hfilled] at hname

theorem lacking_eq_nil_iff : lacking cs = [] ↔ ∀ c ∈ cs, ¬ Lacks c.fields := by
  rw [lacking, List.filter_eq_nil_iff]
  refine forall₂_congr fun c _ => ?_
  rw [Bool.and_eq_true, ← lacks_iff]
  exact not_congr ⟨And.left, fun h => ⟨h, needs_emptyRule h⟩⟩

/-! ### Duplicates -/

/-- Without the duplicates there are no duplicates. -/
theorem repeats_filter_repeats (hn : cs.Nodup) :
    repeats seen (cs.filter (· ∉ repeats seen cs)) = [] := by
  induction cs generalizing seen with
  | nil => rfl
  | cons x rest ih =>
    obtain ⟨hnew, hn⟩ := List.nodup_cons.1 hn
    have hkept (seen : List Text) : x ∉ repeats seen rest := fun h => hnew (mem_of_repeats h)
    rw [repeats]
    split
    next hblank =>
      rw [List.filter_cons_of_pos (by simpa using hkept seen), repeats, if_pos hblank]
      exact ih hn
    next hblank =>
      split
      next hold =>
        rw [List.filter_cons_of_neg (by simp)]
        have hrest : rest.filter (· ∉ x :: repeats seen rest) =
            rest.filter (· ∉ repeats seen rest) := by
          apply List.filter_congr
          intro y hy
          have hne : y ≠ x := fun he => hnew (he ▸ hy)
          simp [hne]
        rw [hrest]
        exact ih hn
      next hold =>
        rw [List.filter_cons_of_pos (by simpa using hkept _), repeats, if_neg hblank, if_neg hold]
        exact ih hn

theorem repeats_map {g : Contact → Contact} (hg : ∀ c, mailOf (g c) = mailOf c) :
    repeats seen (cs.map g) = (repeats seen cs).map g := by
  induction cs generalizing seen with
  | nil => rfl
  | cons x rest ih =>
    rw [List.map_cons, repeats, repeats, hg, ih, ih]
    split
    · rfl
    · split <;> rfl

/-- Where a change makes no entry count that did not, and the entries that count still are as they
were, the change only takes entries out. -/
theorem filter_map_of_kept {α : Type} {q k : α → Bool} {g : α → α} {xs : List α}
    (hq : ∀ x, q (g x) = (k x && q x)) (hg : ∀ x, k x → g x = x) :
    (xs.map g).filter q = xs.filter fun x => k x && q x := by
  induction xs with
  | nil => rfl
  | cons x rest ih =>
    rw [List.map_cons, List.filter_cons, List.filter_cons, hq, ih]
    cases hx : k x with
    | false => rfl
    | true => rw [hg x hx]

theorem withEmail_filter (t : Tables) (p : Contact → Bool) :
    sortList (fun a b => a.created ≤ b.created)
        (t.contacts.filter fun c => p c && (c.active && c.fields.email.isSome)) =
      (withEmail t).filter p := by
  unfold withEmail
  rw [filter_sortList, List.filter_filter]
  · simpa using fun _ _ => Int.le_of_lt
  · simpa using fun _ _ _ => Int.le_trans

/-- After the pass that drops duplicates there are none. -/
theorem Sweeps.distinct (h : Sweeps (retired now) (repeats [] (withEmail s.tables)) s s' r)
    (hn : (s.tables.contacts.map (·.id)).Nodup) (he : r.errors = 0) :
    repeats [] (withEmail s'.tables) = [] := by
  have hkept : withEmail s'.tables =
      (withEmail s.tables).filter (· ∉ repeats [] (withEmail s.tables)) := by
    rw [← withEmail_filter, withEmail, (h.whole he).1]
    congr 1
    apply filter_map_of_kept
    · intro c
      by_cases hc : c ∈ repeats [] (withEmail s.tables) <;> simp [hc, retired]
    · intro c hc
      rw [if_neg (of_decide_eq_true hc)]
  rw [hkept]
  exact repeats_filter_repeats (List.Nodup.of_map _ (withEmail_listed hn).nodup)

/-! ### Normal forms -/

theorem tidied_tidied {f : Text → Text} (hf : ∀ t, f (f t) = f t) (x : Option Text) :
    tidied f (tidied f x) = tidied f x := by
  cases hx : present x with
  | none => rw [tidied_of_none hx, tidied_of_none hx]
  | some t =>
    rw [tidied_of_some hx]
    cases hft : present (some (f t)) with
    | none => rw [tidied_of_none hft]
    | some u =>
      obtain rfl := Option.some.inj (present_eq_some hft).1
      rw [tidied_of_some hft, hf]

theorem regular_normal (v : Fields) : Regular (v.apply (normalRule v)) := by
  rw [Regular, apply_normalRule, apply_normalRule]
  simp only [tidied_tidied name_name, tidied_tidied email_email, tidied_tidied phone_phone]

theorem Sweeps.regular (h : Sweeps (edited normalRule now) (irregular s.tables.contacts) s s' r)
    (he : r.errors = 0) : ∀ c ∈ s'.tables.contacts, c.active → Regular c.fields := by
  intro c hc hactive
  obtain ⟨x, -, hrenewed, hfields⟩ := h.ruled plain_normalRule he hc
  rw [hfields, if_pos (hrenewed.active ▸ hactive)]
  exact regular_normal _

theorem irregular_eq_nil_iff :
    irregular cs = [] ↔ ∀ c ∈ cs, c.active → Regular c.fields := by
  simp [irregular, List.filter_eq_nil_iff, Regular, needs_eq_false_iff plain_normalRule]

theorem isSome_tidied (f : Text → Text) (x : Option Text) : (tidied f x).isSome = x.isSome := by
  match x with
  | none => rfl
  | some [] => rfl
  | some (_ :: _) => rfl

theorem email_normal (now : Instant) (c : Contact) :
    (edited normalRule now c).fields.email = tidied email c.fields.email := by
  rw [edited_fields plain_normalRule, apply_normalRule]

theorem mailOf_normal (now : Instant) (c : Contact) :
    mailOf (edited normalRule now c) = mailOf c := by
  rw [mailOf, mailOf, email_normal]
  match hx : c.fields.email with
  | none => rfl
  | some [] => rfl
  | some (a :: rest) => exact email_email (a :: rest)

/-- Normal forms tell apart the same contacts. -/
theorem Sweeps.distinct_normal (h : Sweeps (edited normalRule now) due s s' r)
    (hs : repeats [] (withEmail s.tables) = []) : repeats [] (withEmail s'.tables) = [] := by
  obtain ⟨done, failed, hswept⟩ := h
  have hmap : withEmail s'.tables =
      (withEmail s.tables).map fun c => if c ∈ done then edited normalRule now c else c := by
    unfold withEmail
    rw [hswept.contacts, List.filter_map, ← sortList_map]
    · congr 3
      funext c
      by_cases hc : c ∈ done <;> simp [hc, email_normal, isSome_tidied]
    · intro a b
      by_cases ha : a ∈ done <;> by_cases hb : b ∈ done <;> simp [ha, hb]
  rw [hmap, repeats_map, hs]
  · rfl
  · intro c
    by_cases hc : c ∈ done <;> simp [hc, mailOf_normal]

end Cleanup
end AddressBook
