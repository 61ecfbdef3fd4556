import AddressBook.Proofs.Store.Moves

/-!
Numbered identifiers: two numbers give two identifiers, so that new contacts never take the
identifier of another.
-/
namespace AddressBook

theorem Uuid.decimalAsHex_zero (fuel : Nat) : decimalAsHex fuel 0 = 0 := by
  cases fuel <;> rfl

theorem Uuid.decimalAsHex_pos {fuel n : Nat} (hn : n ≤ fuel) (h : 0 < n) :
    0 < decimalAsHex fuel n := by
  induction fuel generalizing n with
  | zero => omega
  | succ fuel ih =>
    have hne : ¬ n = 0 := by omega
    simp only [decimalAsHex, beq_iff_eq, hne, if_false]
    by_cases hd : 0 < n / 10
    · have := ih (n := n / 10) (by omega) hd
      omega
    · omega

theorem Uuid.decimalAsHex_injective {fuel fuel' m n : Nat} (hm : m ≤ fuel) (hn : n ≤ fuel')
    (h : decimalAsHex fuel m = decimalAsHex fuel' n) : m = n := by
  induction fuel generalizing fuel' m n with
  | zero =>
    obtain rfl : m = 0 := by omega
    rw [decimalAsHex_zero] at h
    rcases Nat.eq_zero_or_pos n with hn0 | hn0
    · exact hn0.symm
    · have := decimalAsHex_pos hn hn0
      omega
  | succ fuel ih =>
    rcases Nat.eq_zero_or_pos m with rfl | hm0
    · rw [decimalAsHex_zero] at h
      rcases Nat.eq_zero_or_pos n with hn0 | hn0
      · exact hn0.symm
      · have := decimalAsHex_pos hn hn0
        omega
    · rcases Nat.eq_zero_or_pos n with rfl | hn0
      · have := decimalAsHex_pos hm hm0
        rw [decimalAsHex_zero fuel'] at h
        omega
      · obtain ⟨k, rfl⟩ : ∃ k, fuel' = k + 1 := ⟨fuel' - 1, by omega⟩
        simp only [decimalAsHex, beq_iff_eq, Nat.ne_of_gt hm0, Nat.ne_of_gt hn0, if_false] at h
        have hmk : m / 10 ≤ fuel := by omega
        have hnk : n / 10 ≤ k := by omega
        have hd : m / 10 = n / 10 := ih hmk hnk (by omega)
        omega

theorem Uuid.numbered_injective {lead m n : Nat} (h : numbered lead m = numbered lead n) :
    m = n := by
  have hv : decimalAsHex m m = decimalAsHex n n := by
    have hu := congrArg Uuid.value h
    simp only [numbered] at hu
    omega
  exact decimalAsHex_injective (Nat.le_refl m) (Nat.le_refl n) hv

/-- The next number gives an identifier unlike those before. -/
theorem Uuid.ne_numbered_succ {lead n : Nat} {id : Uuid} (h : ∃ i ≤ n, id = .numbered lead i) :
    id ≠ .numbered lead (n + 1) := by
  rintro rfl
  obtain ⟨i, hi, hid⟩ := h
  have := numbered_injective hid
  omega

/-- A contact's identifier was given out. -/
def Given (s : Store) (id : Uuid) : Prop := ∃ n ≤ s.issued.contacts, id = .numbered 0xc0 n

/-- Contacts have distinct identifiers, and only such that were given out. -/
structure Numbered (s : Store) : Prop where
  nodup : (s.tables.contacts.map (·.id)).Nodup
  given : ∀ c ∈ s.tables.contacts, Given s c.id
  noted : ∀ r ∈ s.journal, Given s r.contact

variable {env : Conditions} {s s' : Store} {c c' : Contact} {id : Uuid}

theorem Given.mono (h : Given s id) (hi : s.issued ≤ s'.issued) : Given s' id := by
  obtain ⟨n, hn, hid⟩ := h
  exact ⟨n, Nat.le_trans hn hi.1, hid⟩

/-- The identifier of a new contact was not given out before. -/
theorem Given.fresh (h : Given s id) : id ≠ .numbered 0xc0 (s.issued.contacts + 1) :=
  Uuid.ne_numbered_succ h

theorem numbered_empty : Numbered {} := ⟨List.nodup_nil, by simp, by simp⟩

theorem Numbered.eq_of_id (h : Numbered s) (hc : c ∈ s.tables.contacts)
    (hc' : c' ∈ s.tables.contacts) (hid : c.id = c'.id) : c = c' :=
  Tables.eq_of_id h.nodup hc hc' hid

theorem Numbered.of_ids (h : Numbered s) (hi : s.issued ≤ s'.issued)
    (hc : s'.tables.contacts.map (·.id) = s.tables.contacts.map (·.id))
    (hj : ∀ r ∈ s'.journal, r ∈ s.journal ∨ ∃ c ∈ s.tables.contacts, c.id = r.contact) :
    Numbered s' := by
  refine ⟨hc ▸ h.nodup, ?_, ?_⟩
  · intro c hmem
    have hid : c.id ∈ s.tables.contacts.map (·.id) := hc ▸ List.mem_map_of_mem hmem
    obtain ⟨x, hx, hxc⟩ := List.mem_map.1 hid
    exact hxc ▸ (h.given x hx).mono hi
  · intro r hr
    obtain hr | ⟨c, hmem, hid⟩ := hj r hr
    · exact (h.noted r hr).mono hi
    · exact hid ▸ (h.given c hmem).mono hi

theorem numbered_move (hm : Move env s s') (h : Numbered s) : Numbered s' := by
  cases hm with
  | apart ha => exact h.of_ids ha.issued (by rw [ha.contacts]) fun r hr => Or.inl (ha.journal ▸ hr)
  | created fields upload fits contacts snapshots journal issued fresh =>
    refine ⟨?_, ?_, fun r hr => (h.noted r (journal ▸ hr)).mono issued⟩
    · rw [contacts, List.map_append, List.map_singleton, List.nodup_append]
      refine ⟨h.nodup, List.pairwise_singleton _ _, ?_⟩
      intro x hx y hy
      obtain ⟨c, hc, rfl⟩ := List.mem_map.1 hx
      rw [List.mem_singleton.1 hy]
      exact (h.given c hc).fresh
    · intro c hc
      rw [contacts, List.mem_append, List.mem_singleton] at hc
      rcases hc with hc | rfl
      · exact (h.given c hc).mono issued
      · exact ⟨_, fresh, rfl⟩
  | revised c changes kept mem taken recorded =>
    apply h.of_ids recorded.issued
    · rw [recorded.tables]
      exact Tables.setContact_ids _ _
    · intro r hr
      rw [recorded.journal] at hr
      rcases List.mem_cons.1 hr with rfl | hr
      · exact Or.inr ⟨c, mem, rfl⟩
      · exact Or.inl hr
  | switched c active mem contacts snapshots journal issued =>
    apply h.of_ids issued
    · rw [contacts]
      exact Tables.setContact_ids _ _
    · exact fun r hr => Or.inl (journal ▸ hr)

theorem numbered_evolves (he : Evolves env s s') (h : Numbered s) : Numbered s' := by
  induction he with
  | refl => exact h
  | tail _ hm ih => exact numbered_move hm ih

end AddressBook
