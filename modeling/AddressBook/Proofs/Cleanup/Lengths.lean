import AddressBook.Proofs.Cleanup.Settled
import AddressBook.Proofs.Schema.Limits

/-!
What cleanups make of values within the limits of their fields. Normal forms are no longer than the
values were, unless a letter takes more room in lower case, which never happens twice; only what is
made up for a missing name or e-mail address can go beyond the limits otherwise.
-/
namespace AddressBook

open Text

variable {t : Text} {v : Fields}

/-! ### Texts -/

namespace Cleanup

theorem length_name_le (t : Text) : (name t).length ≤ t.length :=
  Nat.le_trans (length_trim_le _) (length_squeezeFrom_le ..)

theorem length_phone_le (t : Text) : (phone t).length ≤ t.length :=
  Nat.le_trans (length_name_le _) (List.length_filter_le ..)

theorem small_of_mem_domain : ∀ c ∈ placeholderDomain, Small c := by
  have hlower : placeholderDomain.all fun c => c.toNat < 0x80 && c.toLower == c := by decide
  intro c hc
  have hself := List.all_eq_true.1 hlower c hc
  rw [Bool.and_eq_true, decide_eq_true_eq, beq_iff_eq] at hself
  exact hself.2 ▸ small_toLower hself.1

/-- What is in lower case already gets no longer. -/
theorem length_email_placeholder_le (n : Text) :
    (email (placeholderEmail n)).length ≤ (placeholderEmail n).length := by
  have hsmall : ∀ c ∈ placeholderEmail n, Small c := by
    intro c hc
    rcases List.mem_append.1 hc with hc | hc
    · rcases mem_of_squeezeFrom hc with rfl | hc
      · exact small_of_mem_domain '.' (by decide)
      · exact small_of_mem_lower hc
    · exact small_of_mem_domain c hc
  rw [email, lower_of_small hsmall]
  exact length_trim_le _

end Cleanup

/-! ### Rules -/

namespace Fields

/-- The values with a missing name or e-mail address filled. -/
def filled (v : Fields) : Fields := v.apply (Cleanup.emptyRule v)

/-- The values in normal form. -/
def normal (v : Fields) : Fields := v.apply (Cleanup.normalRule v)

/-- Values for which nothing that a cleanup makes of them is beyond a limit. -/
structure Cleanable (v : Fields) : Prop where
  within : v.Within
  filled : v.filled.Within
  normal : v.normal.Within

end Fields

namespace Cleanup

theorem admits_tidied {f : Field} {g : Text → Text} {x : Option Text}
    (hg : ∀ t, (g t).length ≤ t.length) (h : ∀ t, x = some t → f.Admits t) :
    ∀ t, tidied g x = some t → f.Admits t := by
  intro t ht
  cases hx : present x with
  | none =>
    rw [tidied_of_none hx] at ht
    exact h t ht
  | some u =>
    rw [tidied_of_some hx] at ht
    cases ht
    exact (h u (present_eq_some hx).1).of_length_le (hg u)

/-- In normal form only the e-mail address may go beyond its limit. -/
theorem within_normal_iff (h : v.Within) :
    v.normal.Within ↔ ∀ t, tidied email v.email = some t → Field.email.Admits t := by
  rw [Fields.normal, apply_normalRule, Fields.within_iff]
  exact ⟨fun hn => hn.2.1, fun he => ⟨admits_tidied length_name_le (h .name), he,
    admits_tidied length_phone_le (h .phone)⟩⟩

theorem normal_normal (v : Fields) : v.normal.normal = v.normal := regular_normal v

/-- What filling comes to. -/
theorem filled_cases (v : Fields) :
    (∃ n e, n ≠ [] ∧ present v.email = some e ∧
      v.filled = { v with name := some n, email := some e }) ∨
    (∃ n, n ≠ [] ∧ v.filled = { v with name := some n, email := some (placeholderEmail n) }) ∨
    v.filled = { v with name := some unknownName, email := none } := by
  have hfilled : v.filled = _ := apply_emptyRule v
  cases he : present v.email with
  | some e =>
    rw [fill_of_email v.name he] at hfilled
    refine .inl ⟨_, e, ?_, rfl, hfilled⟩
    cases hn : present ((present v.name).or (some (nameFromEmail e))) with
    | none => simp [unknownName, Text.ofString]
    | some n => exact (present_eq_some hn).2
  | none =>
    cases hn : present v.name with
    | some n =>
      rw [fill_of_name he hn] at hfilled
      exact .inr (.inl ⟨n, (present_eq_some hn).2, hfilled⟩)
    | none =>
      rw [fill_of_none he hn] at hfilled
      exact .inr (.inr hfilled)

/-- Where nothing is missing, nothing is filled. -/
theorem filled_of_both {n e : Text} (hname : v.name = some n) (hn : n ≠ [])
    (hemail : v.email = some e) (he : e ≠ []) : v.filled = v := by
  have hfilled : v.filled = _ := apply_emptyRule v
  rw [hname, hemail, fill_of_email (some n) (present_of_ne he), present_of_ne hn] at hfilled
  simp only [Option.some_or, present_of_ne hn, Option.getD_some] at hfilled
  rw [hfilled, ← hname, ← hemail]

theorem within_filled_unknown (h : v.Within) (hv : v.name = some unknownName)
    (he : v.email = none) : v.filled.Within := by
  have hfilled : v.filled = _ := apply_emptyRule v
  have hname : present v.name = some unknownName := by
    rw [hv]
    rfl
  have hmail : present v.email = none := by
    rw [he]
    rfl
  rw [fill_of_name hmail hname] at hfilled
  rw [hfilled]
  refine Fields.within_iff.2 ⟨?_, ?_, h .phone⟩
  · rintro t ⟨⟩
    decide
  · rintro t ⟨⟩
    decide +kernel

/-- Filling twice keeps the limits that filling once keeps. -/
theorem within_filled_filled (h : v.filled.Within) : v.filled.filled.Within := by
  obtain ⟨n, e, hn, he, hv⟩ | ⟨n, hn, hv⟩ | hv := filled_cases v
  · rwa [filled_of_both (n := n) (e := e) (by rw [hv]) hn (by rw [hv]) (present_eq_some he).2]
  · rwa [filled_of_both (n := n) (by rw [hv]) hn (by rw [hv]) (placeholderEmail_ne_nil n)]
  · exact within_filled_unknown h (by rw [hv]) (by rw [hv])

theorem cleanable_filled (h : v.Cleanable) : v.filled.Cleanable := by
  refine ⟨h.filled, within_filled_filled h.filled, (within_normal_iff h.filled).2 ?_⟩
  have hemail := h.filled .email
  obtain ⟨n, e, -, he, hv⟩ | ⟨n, -, hv⟩ | hv := filled_cases v
  · rw [hv, ← (present_eq_some he).1]
    exact (within_normal_iff h.within).1 h.normal
  · -- an address that is made up is in lower case already
    rw [hv] at hemail ⊢
    intro t ht
    rw [tidied_of_some (present_of_ne (placeholderEmail_ne_nil n))] at ht
    cases ht
    exact (hemail _ rfl).of_length_le (length_email_placeholder_le n)
  · rw [hv]
    exact nofun

theorem cleanable_address (h : v.Cleanable) : (v.apply (addressRule v)).Cleanable := by
  have hrest (w : Fields) (x : Option Text) (hw : w.Within) : { w with address := x }.Within := by
    rw [Fields.within_iff] at hw ⊢
    exact hw
  obtain ⟨within, filled, normal⟩ := h
  rw [Fields.filled, apply_emptyRule] at filled
  rw [Fields.normal, apply_normalRule] at normal
  rw [apply_addressRule]
  refine ⟨hrest _ _ within, ?_, ?_⟩
  · rw [Fields.filled, apply_emptyRule]
    exact hrest _ (v.address.map address) filled
  · rw [Fields.normal, apply_normalRule]
    exact hrest _ (v.address.map address) normal

end Cleanup
end AddressBook
