import AddressBook.Proofs.Cleanup.Rules
import AddressBook.Proofs.Service.Run
import Mathlib.Data.List.Nodup

/-!
Which contacts a general cleanup puts out of use. It fills missing e-mail addresses before it looks
for duplicates, so an address that was made up for a name counts as well as one that was stored.
-/
namespace AddressBook

/-- Two people of one name come into the store, both without an e-mail address. -/
def namesakes : List Step :=
  [⟨.fair 1, .createContact { name := some (Text.ofString "Ann"), phone := some ['1'] }⟩,
    ⟨.fair 2, .createContact { name := some (Text.ofString "Ann"), phone := some ['2'] }⟩]

namespace Cleanup

variable {env : Conditions} {s s₁ s₂ s₃ s' : Store} {q₁ q₂ q₃ q₄ : Report} {c c' : Contact}
  {cs : List Contact} {seen : List Text}

/-- Before a contact that repeats an e-mail address, there is one that does not. -/
theorem keeper_of_mem_repeats {R : Contact → Contact → Prop} (hp : cs.Pairwise R) (hn : cs.Nodup)
    (h : c ∈ repeats seen cs) :
    mailOf c ∈ seen ∨ ∃ d ∈ cs, d ∉ repeats seen cs ∧ mailOf d = mailOf c ∧ R d c := by
  induction cs generalizing seen with
  | nil => cases h
  | cons x rest ih =>
    obtain ⟨hx, hp⟩ := List.pairwise_cons.1 hp
    obtain ⟨hnew, hn⟩ := List.nodup_cons.1 hn
    rw [repeats] at h ⊢
    split at h
    next hblank =>
      rw [if_pos hblank]
      rcases ih hp hn h with hseen | ⟨d, hd, hkept⟩
      · exact .inl hseen
      · exact .inr ⟨d, List.mem_cons_of_mem _ hd, hkept⟩
    next hblank =>
      rw [if_neg hblank]
      split at h
      next hold =>
        rw [if_pos hold]
        rcases List.mem_cons.1 h with rfl | h
        · exact .inl (by simpa using hold)
        · rcases ih hp hn h with hseen | ⟨d, hd, hkept, hd'⟩
          · exact .inl hseen
          · refine .inr ⟨d, List.mem_cons_of_mem _ hd, ?_, hd'⟩
            rintro (_ | ⟨_, hmem⟩)
            · exact hnew hd
            · exact hkept hmem
      next hold =>
        rw [if_neg hold]
        rcases ih hp hn h with hseen | ⟨d, hd, hkept⟩
        · rcases List.mem_cons.1 hseen with heq | hseen
          · -- the contact at hand is the first one with the address
            refine .inr ⟨x, List.mem_cons_self .., ?_, heq.symm, hx c (mem_of_repeats h)⟩
            exact fun hmem => hnew (mem_of_repeats hmem)
          · exact .inl hseen
        · exact .inr ⟨d, List.mem_cons_of_mem _ hd, hkept⟩

theorem withEmail_ordered (t : Tables) :
    (withEmail t).Pairwise fun a b => a.created ≤ b.created := by
  refine (sortList_pairwise ?_ ?_ _).imp of_decide_eq_true
  · simpa using fun _ _ => Int.le_of_lt
  · simpa using fun _ _ _ => Int.le_trans

/-- Of the contacts that share an e-mail address, an oldest one is no duplicate. -/
theorem keeper_of_duplicate (hn : (s.tables.contacts.map (·.id)).Nodup)
    (h : c ∈ repeats [] (withEmail s.tables)) :
    ∃ d ∈ withEmail s.tables, d ∉ repeats [] (withEmail s.tables) ∧ mailOf d = mailOf c ∧
      d.created ≤ c.created := by
  have hkeeper := keeper_of_mem_repeats (withEmail_ordered s.tables)
    (List.Nodup.of_map _ (withEmail_listed hn).nodup) h
  exact hkeeper.resolve_left List.not_mem_nil

section

variable (h : Overhaul env s s₁ s₂ s₃ s' q₁ q₂ q₃ q₄)
include h

/-- Where an e-mail address comes from by which contacts are told apart. -/
theorem Overhaul.origin (hc : c ∈ s₂.tables.contacts) (hm : mailOf c ≠ []) :
    ∃ x ∈ s.tables.contacts, Renewed x c ∧ ∃ m, Mails x.fields m ∧ email m = mailOf c := by
  obtain ⟨m, hmail⟩ : ∃ m, c.fields.email = some m := by
    cases he : c.fields.email with
    | none => exact absurd (by rw [mailOf, he]; rfl) hm
    | some m => exact ⟨m, rfl⟩
  have heq : email m = mailOf c := by rw [mailOf, hmail, Option.getD_some]
  have hne : m ≠ [] := by
    rintro rfl
    exact hm heq.symm
  obtain ⟨y, hy, hyc⟩ := h.filled.behind hc
  have hrenewed : Renewed y c := by
    obtain rfl | ⟨-, rfl⟩ := hyc
    · exact .refl _
    · exact renewed_edited ..
  have hmails : Mails y.fields m := by
    obtain rfl | ⟨-, rfl⟩ := hyc
    · exact mails_of_email hmail hne
    · rw [edited_fields plain_emptyRule, apply_emptyRule] at hmail
      exact mails_of_fill hmail
  obtain ⟨x, hx, rfl | ⟨-, rfl⟩⟩ := h.addresses.behind hy
  · exact ⟨_, hx, hrenewed, m, hmails, heq⟩
  · rw [edited_fields plain_addressRule, apply_addressRule] at hmails
    exact ⟨x, hx, (renewed_edited ..).trans hrenewed, m, hmails, heq⟩

/-- What becomes of a contact until duplicates are looked for. -/
theorem Overhaul.renews (hc : c ∈ s.tables.contacts) :
    ∃ c' ∈ s₂.tables.contacts, Renewed c c' := by
  obtain ⟨c₁, hc₁, h₁⟩ := h.addresses.renews hc
  obtain ⟨c₂, hc₂, h₂⟩ := h.filled.renews hc₁
  exact ⟨c₂, hc₂, h₁.trans h₂⟩

/-- What becomes of a contact that is no duplicate. -/
theorem Overhaul.keeps (hc : c ∈ s₂.tables.contacts)
    (hkept : c ∉ repeats [] (withEmail s₂.tables)) :
    ∃ c' ∈ s'.tables.contacts, Renewed c c' := by
  obtain ⟨c₃, hc₃, rfl | ⟨hdue, -⟩⟩ := h.dropped.ahead hc
  · exact h.normal.renews hc₃
  · exact absurd hdue hkept

/-- Only duplicates are put out of use. -/
theorem Overhaul.duplicate_of_ne (hn : (s.tables.contacts.map (·.id)).Nodup)
    (hc : c ∈ s.tables.contacts) (hc' : c' ∈ s'.tables.contacts) (hid : c'.id = c.id)
    (hout : c'.active ≠ c.active) :
    ∃ x ∈ repeats [] (withEmail s₂.tables), Renewed c x := by
  obtain ⟨x, hx, hcx⟩ := h.renews hc
  refine ⟨x, Decidable.byContradiction fun hkept => ?_, hcx⟩
  obtain ⟨y, hy, hxy⟩ := h.keeps hx hkept
  have hcy := hcx.trans hxy
  obtain rfl := Tables.eq_of_id (h.ids ▸ hn) hc' hy (hid.trans hcy.id.symm)
  exact hout hcy.active

end

end Cleanup

section

open AddressBook.Action Cleanup

variable {env : Conditions} {s : Store} {c c' : Contact}

/-- A contact that a general cleanup puts out of use was in use, and so was an older one, which
stays, with the same e-mail address. The addresses may be stored or made up for a name. -/
theorem general_merges (hn : (s.tables.contacts.map (·.id)).Nodup) (hc : c ∈ s.tables.contacts)
    (hc' : c' ∈ (s.next ⟨env, .cleanup (Text.ofString "general")⟩).tables.contacts)
    (hid : c'.id = c.id) (hout : c'.active ≠ c.active) :
    c.active ∧ ∃ m, Mails c.fields m ∧ email m ≠ [] ∧
      ∃ d ∈ s.tables.contacts, d.id ≠ c.id ∧ d.active ∧ d.created ≤ c.created ∧
        (∃ m', Mails d.fields m' ∧ email m' = email m) ∧
        ∃ d' ∈ (s.next ⟨env, .cleanup (Text.ofString "general")⟩).tables.contacts,
          d'.id = d.id ∧ d'.active := by
  obtain ⟨s₁, s₂, s₃, t, q₁, q₂, q₃, q₄, hrun, ho⟩ := general_overhaul env hn
  have hop : (Operation.cleanup (Text.ofString "general")).run env s =
    .ok (.report .general (((q₁.merge q₂).merge q₃).merge q₄)) t := run_cleanup .general hrun
  rcases tables_next hop with hnext | hnext
  case inr =>
    -- the commit failed, and the contact is as it was
    rw [hnext] at hc'
    exact absurd (Tables.eq_of_id hn hc' hc hid ▸ rfl) hout
  rw [hnext] at hc' ⊢
  obtain ⟨x, hx, hcx⟩ := ho.duplicate_of_ne hn hc hc' hid hout
  have hn₂ : (s₂.tables.contacts.map (·.id)).Nodup := ho.ids_filled ▸ hn
  obtain ⟨y, hy, hkept, hsame, hle⟩ := keeper_of_duplicate hn₂ hx
  obtain ⟨hxmail, hmail⟩ := of_mem_repeats hx
  obtain ⟨hx₂, hactive, -⟩ := mem_withEmail.1 hxmail
  obtain ⟨hy₂, hyactive, -⟩ := mem_withEmail.1 hy
  obtain ⟨x₀, hx₀, hxx, m, hm, hmx⟩ := ho.origin hx₂ hmail
  obtain rfl := Tables.eq_of_id hn hx₀ hc (hxx.id.symm.trans hcx.id)
  obtain ⟨d, hd, hdy, m', hm', hmy⟩ := ho.origin hy₂ (hsame ▸ hmail)
  obtain ⟨d', hd', hdd'⟩ := ho.keeps hy₂ hkept
  refine ⟨hxx.active.symm.trans hactive, m, hm, hmx ▸ hmail, d, hd, ?_, ?_, ?_, ⟨m', hm', ?_⟩,
    d', hd', hdd'.id.trans hdy.id, hdd'.active.trans hyactive⟩
  · -- one of the two is a duplicate, the other is not
    intro he
    obtain rfl := Tables.eq_of_id hn₂ hy₂ hx₂ (hdy.id.trans (he.trans hxx.id.symm))
    exact hkept hx
  · exact hdy.active.symm.trans hyactive
  · rwa [← hdy.created, ← hxx.created]
  · rw [hmy, hsame, hmx]

/-- The second of two namesakes as it came into the store. -/
def secondNamesake : Contact :=
  ⟨.numbered 0xc0 2, { name := some (Text.ofString "Ann"), phone := some ['2'] }, 1, true, none, 2,
    2⟩

/-- The second of two namesakes after a general cleanup. -/
def mergedNamesake : Contact :=
  { secondNamesake with
    fields.email := some (Text.ofString "ann@example.com")
    version := 2
    active := false
    updated := 3 }

theorem mem_mergedNamesake : mergedNamesake ∈ ((Store.run {} namesakes).next
    ⟨.fair 3, .cleanup (Text.ofString "general")⟩).tables.contacts := by
  decide +kernel

theorem general_merges_namesakes : ∃ m, Mails secondNamesake.fields m ∧
    ∃ d ∈ (Store.run {} namesakes).tables.contacts, d.id ≠ secondNamesake.id ∧ d.active ∧
      ∃ m', Mails d.fields m' ∧ email m' = email m := by
  obtain ⟨-, m, hm, -, d, hd, hne, hactive, -, hmail, -⟩ :=
    general_merges (by decide) (by decide) mem_mergedNamesake (c := secondNamesake) rfl (by decide)
  exact ⟨m, hm, d, hd, hne, hactive, hmail⟩

/-- Contacts may be put out of use that never had an e-mail address. -/
theorem general_merges_unstored : ¬ ∀ (env : Conditions) (s : Store) (c c' : Contact),
    (s.tables.contacts.map (·.id)).Nodup → c ∈ s.tables.contacts →
    c' ∈ (s.next ⟨env, .cleanup (Text.ofString "general")⟩).tables.contacts →
    c'.id = c.id → c.active → c'.active = false → ∃ m, c.fields.email = some m ∧ email m ≠ [] := by
  intro h
  obtain ⟨m, hm, -⟩ := h (.fair 3) (Store.run {} namesakes) secondNamesake mergedNamesake
    (by decide) (by decide) mem_mergedNamesake rfl rfl rfl
  cases hm

end
end AddressBook
