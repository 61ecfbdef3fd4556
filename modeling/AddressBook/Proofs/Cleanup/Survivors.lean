import AddressBook.Proofs.Cleanup.Merging

/-!
Which contacts are left in use when duplicates are dropped, whatever writes the store refuses: of
each e-mail address the oldest contact, and besides it those that could not be written.
-/
namespace AddressBook.Cleanup

/-! ### Duplicates -/

/-- A contact was there before another one. Of two that were created at one time, the first to be
stored was. -/
def Older (t : Tables) (c d : Contact) : Prop :=
  c.created < d.created ∨ c.created = d.created ∧ t.contacts.idxOf c < t.contacts.idxOf d

/-- A contact in use goes by an e-mail address. -/
def Holds (m : Text) (c : Contact) : Prop := c.active ∧ mailOf c = m

/-- A contact holds an e-mail address, and all others that hold it came later. -/
structure Oldest (t : Tables) (m : Text) (c : Contact) : Prop where
  mem : c ∈ t.contacts
  holds : Holds m c
  first : ∀ d ∈ t.contacts, Holds m d → d ≠ c → Older t c d

/-- A contact in use has an e-mail address that an older one holds. Those out of use and those
without an e-mail address are no duplicates. -/
def Duplicate (t : Tables) (c : Contact) : Prop :=
  c.active ∧ mailOf c ≠ [] ∧ ∃ d ∈ t.contacts, Holds (mailOf c) d ∧ Older t d c

variable {env : Conditions} {s s' : Store} {t : Tables} {r : Report} {c d : Contact}
  {cs : List Contact} {seen : List Text} {m : Text} {R : Contact → Contact → Prop}

instance : Decidable (Older t c d) := inferInstanceAs (Decidable (_ ∨ _))

instance : Decidable (Holds m c) := inferInstanceAs (Decidable (_ ∧ _))

instance : Decidable (Duplicate t c) := inferInstanceAs (Decidable (_ ∧ _))

theorem Older.asymm (h : Older t c d) : ¬ Older t d c := by
  intro h'
  rcases h with hlt | ⟨heq, hplace⟩ <;> rcases h' with hlt' | ⟨heq', hplace'⟩
  · exact Int.lt_asymm hlt hlt'
  · exact Int.lt_irrefl _ (heq' ▸ hlt)
  · exact Int.lt_irrefl _ (heq ▸ hlt')
  · exact Nat.lt_asymm hplace hplace'

theorem pairwise_idxOf (h : cs.Nodup) : cs.Pairwise fun a b => cs.idxOf a < cs.idxOf b := by
  rw [List.pairwise_iff_getElem]
  intro i j hi hj hij
  rwa [h.idxOf_getElem, h.idxOf_getElem]

/-- The contacts that have an e-mail address come in the order of their age. -/
theorem withEmail_aged (hn : (t.contacts.map (·.id)).Nodup) : (withEmail t).Pairwise (Older t) := by
  have hplaces := (pairwise_idxOf (hn.of_map _)).filter fun c => c.active && c.fields.email.isSome
  refine (sortList_stable ?_ ?_ hplaces).imp ?_
  · simpa using fun _ _ => Int.le_of_lt
  · simpa using fun _ _ _ => Int.le_trans
  · rintro a b ⟨hle, hplace⟩
    rw [decide_eq_true_eq] at hle hplace
    rcases Int.lt_or_eq_of_le hle with hlt | heq
    · exact .inl hlt
    · exact .inr ⟨heq, hplace (Int.le_of_eq heq.symm)⟩

theorem mem_withEmail_of_holds (hc : c ∈ t.contacts) (h : Holds m c) (hm : m ≠ []) :
    c ∈ withEmail t := by
  refine mem_withEmail.2 ⟨hc, h.1, Option.isSome_iff_ne_none.2 fun hnone => hm ?_⟩
  rw [← h.2, mailOf, hnone]
  rfl

/-- A contact that repeats no e-mail address is the first one to have its own. -/
theorem first_of_not_mem_repeats (hp : cs.Pairwise R) (hc : c ∈ cs) (hm : mailOf c ≠ [])
    (h : c ∉ repeats seen cs) :
    mailOf c ∉ seen ∧ ∀ d ∈ cs, mailOf d = mailOf c → d ≠ c → R c d := by
  induction cs generalizing seen with
  | nil => cases hc
  | cons x rest ih =>
    obtain ⟨hx, hp⟩ := List.pairwise_cons.1 hp
    rw [repeats] at h
    split at h
    next hblank =>
      have hne : c ≠ x := by
        rintro rfl
        exact hm (by simpa using hblank)
      obtain ⟨hnew, hfirst⟩ := ih hp ((List.mem_cons.1 hc).resolve_left hne) h
      refine ⟨hnew, List.forall_mem_cons.2 ⟨fun hsame => ?_, hfirst⟩⟩
      exact absurd (hsame.symm.trans (by simpa using hblank)) hm
    next hblank =>
      split at h
      next hold =>
        rw [List.mem_cons, not_or] at h
        obtain ⟨hnew, hfirst⟩ := ih hp ((List.mem_cons.1 hc).resolve_left h.1) h.2
        refine ⟨hnew, List.forall_mem_cons.2 ⟨fun hsame => ?_, hfirst⟩⟩
        exact absurd (hsame ▸ by simpa using hold) hnew
      next hold =>
        rcases List.mem_cons.1 hc with rfl | hc
        · refine ⟨by simpa using hold, List.forall_mem_cons.2 ⟨fun _ hne => absurd rfl hne, ?_⟩⟩
          exact fun d hd _ _ => hx d hd
        · obtain ⟨hnew, hfirst⟩ := ih hp hc h
          rw [List.mem_cons, not_or] at hnew
          refine ⟨hnew.2, List.forall_mem_cons.2 ⟨fun hsame => ?_, hfirst⟩⟩
          exact absurd hsame.symm hnew.1

/-- The contacts that repeat an e-mail address, in the order of their age, are the duplicates. -/
theorem mem_repeats_iff (hn : (t.contacts.map (·.id)).Nodup) :
    c ∈ repeats [] (withEmail t) ↔ c ∈ t.contacts ∧ Duplicate t c := by
  have haged := withEmail_aged hn
  constructor
  · intro h
    obtain ⟨hmem, hm⟩ := of_mem_repeats h
    obtain ⟨hc, hactive, -⟩ := mem_withEmail.1 hmem
    have hnodup : (withEmail t).Nodup :=
      (withEmail_listed (s := { tables := t }) hn).nodup.of_map _
    obtain ⟨d, hd, -, hsame, holder⟩ :=
      (keeper_of_mem_repeats haged hnodup h).resolve_left List.not_mem_nil
    obtain ⟨hd, hdactive, -⟩ := mem_withEmail.1 hd
    exact ⟨hc, hactive, hm, d, hd, ⟨hdactive, hsame⟩, holder⟩
  · rintro ⟨hc, hactive, hm, d, hd, hholds, holder⟩
    by_contra hnot
    have hfirst := (first_of_not_mem_repeats haged (mem_withEmail_of_holds hc ⟨hactive, rfl⟩ hm) hm
      hnot).2 d (mem_withEmail_of_holds hd hholds hm) hholds.2
    have hne : d ≠ c := by
      rintro rfl
      exact holder.asymm holder
    exact holder.asymm (hfirst hne)

/-! ### Survivors -/

/-- The store refuses to put a duplicate out of use when its turn comes. -/
def Fails (env : Conditions) (s : Store) (c : Contact) : Prop :=
  verdict env s (repeats [] (withEmail s.tables)) c ≠ none

instance : Decidable (Fails env s c) := inferInstanceAs (Decidable (_ ≠ _))

/-- What dropping duplicates comes to: those that can be written are put out of use, the others are
the errors, and all else stays as it is. -/
structure Deduplicated (env : Conditions) (s s' : Store) (r : Report) : Prop where
  contacts : s'.tables.contacts = s.tables.contacts.map fun c =>
    if Duplicate s.tables c ∧ ¬ Fails env s c then retired env.now c else c
  untouched : ∀ c ∈ s.tables.contacts, c.active = false ∨ mailOf c = [] → c ∈ s'.tables.contacts
  elsewhere : s'.tables = { s.tables with contacts := s'.tables.contacts }
  journal : s'.journal = s.journal
  cleaned : r.cleaned = s.tables.contacts.countP fun c => Duplicate s.tables c ∧ ¬ Fails env s c
  errors : r.errors = s.tables.contacts.countP fun c => Duplicate s.tables c ∧ Fails env s c
  lines : ∀ c ∈ s.tables.contacts, Duplicate s.tables c → Fails env s c →
    ∃ reason, errorLine "removing duplicate" c.id (.storage reason) ∈ r.details

theorem countP_repeats (hn : (t.contacts.map (·.id)).Nodup) (p : Contact → Bool) :
    (repeats [] (withEmail t)).countP p = t.contacts.countP fun c => Duplicate t c ∧ p c := by
  have hnodup : (repeats [] (withEmail t)).Nodup :=
    ((withEmail_listed (s := { tables := t }) hn).nodup.of_map _).sublist (repeats_sublist ..)
  have hperm : (repeats [] (withEmail t)).Perm (t.contacts.filter fun c => Duplicate t c) := by
    refine (List.perm_ext_iff_of_nodup hnodup ((hn.of_map _).filter _)).2 fun c => ?_
    rw [mem_repeats_iff hn, List.mem_filter, decide_eq_true_eq]
  rw [hperm.countP_eq, List.countP_filter]
  simp only [Bool.decide_and, Bool.decide_eq_true, Bool.and_comm (p _)]

theorem deduplicated (env : Conditions) (hn : (s.tables.contacts.map (·.id)).Nodup) :
    Deduplicated env s (thinned env s (repeats [] (withEmail s.tables)))
      (dropReport (judged env s (repeats [] (withEmail s.tables)))) := by
  refine ⟨?_, ?_, rfl, rfl, ?_, ?_, ?_⟩
  · apply List.map_congr_left
    intro c hc
    simp only [dropped, mem_repeats_iff hn, hc, true_and, Fails, not_not]
  · intro c hc hout
    refine List.mem_map.2 ⟨c, hc, if_neg fun h => ?_⟩
    obtain ⟨hactive, hm, -⟩ := ((mem_repeats_iff hn).1 h.1).2
    rcases hout with hout | hout
    · simp [hactive] at hout
    · exact hm hout
  · refine dropReport_cleaned.trans ((countP_repeats hn _).trans ?_)
    refine List.countP_congr fun c _ => ?_
    rw [decide_eq_true_eq, decide_eq_true_eq]
    exact and_congr_right' (Option.isNone_iff_eq_none.trans not_not.symm)
  · refine dropReport_errors.trans ((countP_repeats hn _).trans ?_)
    refine List.countP_congr fun c _ => ?_
    rw [decide_eq_true_eq, decide_eq_true_eq]
    exact and_congr_right' Option.isSome_iff_ne_none
  · intro c hc hdup hfails
    obtain ⟨reason, hreason⟩ := Option.ne_none_iff_exists'.1 hfails
    have hmem : (c, some reason) ∈ judged env s (repeats [] (withEmail s.tables)) :=
      List.mem_map.2 ⟨c, (mem_repeats_iff hn).2 ⟨hc, hdup⟩, by rw [hreason]⟩
    exact ⟨reason, List.mem_map_of_mem hmem⟩

/-- An e-mail address that is held has an oldest holder. -/
theorem exists_oldest (hn : (t.contacts.map (·.id)).Nodup) (hm : m ≠ [])
    (hheld : ∃ c ∈ t.contacts, Holds m c) : ∃ c, Oldest t m c := by
  have hmem (c : Contact) : c ∈ (withEmail t).filter (Holds m ·) ↔ c ∈ t.contacts ∧ Holds m c := by
    rw [List.mem_filter, decide_eq_true_eq]
    exact ⟨fun h => ⟨(mem_withEmail.1 h.1).1, h.2⟩,
      fun h => ⟨mem_withEmail_of_holds h.1 h.2 hm, h.2⟩⟩
  have haged := (withEmail_aged hn).filter (Holds m ·)
  cases hholders : (withEmail t).filter (Holds m ·) with
  | nil =>
    obtain ⟨c, hc, hholds⟩ := hheld
    have hin := (hmem c).2 ⟨hc, hholds⟩
    rw [hholders] at hin
    cases hin
  | cons c rest =>
    rw [hholders] at haged hmem
    obtain ⟨hc, hholds⟩ := (hmem c).1 (List.mem_cons_self ..)
    refine ⟨c, hc, hholds, fun d hd hdholds hne => ?_⟩
    have hin := (List.mem_cons.1 ((hmem d).2 ⟨hd, hdholds⟩)).resolve_left hne
    exact (List.pairwise_cons.1 haged).1 d hin

/-- Of the holders of an e-mail address, all but the oldest are duplicates. -/
theorem Oldest.duplicate_iff (h : Oldest t m c) (hm : m ≠ []) (hd : d ∈ t.contacts)
    (hholds : Holds m d) : Duplicate t d ↔ d ≠ c := by
  obtain ⟨hactive, rfl⟩ := hholds
  constructor
  · rintro ⟨-, -, e, he, heholds, hold⟩ rfl
    by_cases hne : e = d
    · exact (hne ▸ hold).asymm (hne ▸ hold)
    · exact hold.asymm (h.first e he heholds hne)
  · intro hne
    exact ⟨hactive, hm, c, h.mem, h.holds, h.first d hd ⟨hactive, rfl⟩ hne⟩

/-- Who holds an e-mail address afterwards: the oldest contact that held it, and those that could
not be put out of use. -/
theorem Deduplicated.holders (h : Deduplicated env s s' r) (hold : Oldest s.tables m c)
    (hm : m ≠ []) : d ∈ s'.tables.contacts ∧ Holds m d ↔
      d = c ∨ d ∈ s.tables.contacts ∧ Holds m d ∧ d ≠ c ∧ Fails env s d := by
  rw [h.contacts, List.mem_map]
  constructor
  · rintro ⟨⟨x, hx, hxd⟩, hholds⟩
    split at hxd
    next =>
      subst hxd
      cases hholds.1
    next hkept =>
      subst hxd
      rw [hold.duplicate_iff hm hx hholds] at hkept
      by_cases hne : x = c
      · exact .inl hne
      · exact .inr ⟨hx, hholds, hne, by simpa [hne] using hkept⟩
  · rintro (rfl | ⟨hd, hholds, -, hfails⟩)
    · have hnot : ¬ Duplicate s.tables d := fun hdup =>
        (hold.duplicate_iff hm hold.mem hold.holds).1 hdup rfl
      exact ⟨⟨d, hold.mem, if_neg fun h => hnot h.1⟩, hold.holds⟩
    · exact ⟨⟨d, hd, if_neg fun h => h.2 hfails⟩, hholds⟩

/-- Dropping duplicates keeps the oldest contact of each e-mail address in use, whatever writes the
store refuses. If it refuses none of them, no other contact in use keeps the address. -/
theorem duplicates_keep_oldest (env : Conditions) (hn : (s.tables.contacts.map (·.id)).Nodup) :
    ∃ r s', duplicates env s = .ok r s' ∧ Deduplicated env s s' r ∧
      ∀ m ≠ [], (∃ c ∈ s.tables.contacts, Holds m c) → ∃ c, Oldest s.tables m c ∧
        (∀ d, d ∈ s'.tables.contacts ∧ Holds m d ↔
          d = c ∨ d ∈ s.tables.contacts ∧ Holds m d ∧ d ≠ c ∧ Fails env s d) ∧
        ((∀ d ∈ s.tables.contacts, Duplicate s.tables d → ¬ Fails env s d) →
          ∀ d, d ∈ s'.tables.contacts ∧ Holds m d ↔ d = c) := by
  refine ⟨_, _, duplicates_run env hn, deduplicated env hn, fun m hm hheld => ?_⟩
  obtain ⟨c, hold⟩ := exists_oldest hn hm hheld
  have hholders (d : Contact) := (deduplicated env hn).holders (d := d) hold hm
  refine ⟨c, hold, hholders, fun hwritten d => (hholders d).trans ⟨?_, .inl⟩⟩
  rintro (rfl | ⟨hd, hholds, hne, hfails⟩)
  · rfl
  · exact absurd hfails (hwritten d hd ((hold.duplicate_iff hm hd hholds).2 hne))

/-- A contact with nothing but an e-mail address. -/
def mailed (n : Nat) (mail : String) (created : Instant) : Contact :=
  ⟨.numbered 0xc0 n, { email := some (Text.ofString mail) }, 1, true, none, created, created⟩

/-- Three contacts with one e-mail address, two of them created at one time. -/
def sharing : Store :=
  { tables := { contacts := [mailed 1 "A@x" 2, mailed 2 "a@x " 1, mailed 3 " a@X" 1] } }

/-- Conditions under which the first write is refused. -/
def firstTryRefused : Conditions :=
  { Conditions.fair 5 with refusal := fun n _ => if n = 0 then some [] else none }

/-- The second contact is the oldest, the third could not be written. -/
theorem duplicates_keep_oldest_sharing : ∃ r s', duplicates firstTryRefused sharing = .ok r s' ∧
    s'.tables.contacts = [retired 5 (mailed 1 "A@x" 2), mailed 2 "a@x " 1, mailed 3 " a@X" 1] ∧
      r.cleaned = 1 ∧ r.errors = 1 := by
  obtain ⟨r, s', hrun, h, -⟩ := duplicates_keep_oldest (s := sharing) firstTryRefused (by decide)
  exact ⟨r, s', hrun, h.contacts.trans (by decide), h.cleaned.trans (by decide),
    h.errors.trans (by decide)⟩

end AddressBook.Cleanup
