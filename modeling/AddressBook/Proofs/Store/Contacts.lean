import AddressBook.Proofs.Store.Running
import AddressBook.Store.Contacts

/-! What the writes of a contact do, and exactly when they succeed. -/
namespace AddressBook

/-- A contact after a change of its fields, which is its next version. -/
def Contact.revised (c : Contact) (changes : Changes) (now : Instant) : Contact :=
  { c with fields := c.fields.apply changes, version := c.version + 1, updated := now }

/-- Changes that set every field leave nothing of the values before. -/
theorem Fields.apply_toChanges (v f : Fields) : v.apply f.toChanges = f := rfl

/-- No count of given-out identifiers is taken back. -/
instance : LE Issued where
  le a b := a.contacts ≤ b.contacts ∧ a.snapshots ≤ b.snapshots ∧ a.groups ≤ b.groups ∧
    a.uploads ≤ b.uploads

theorem Issued.le_refl (a : Issued) : a ≤ a :=
  ⟨Nat.le_refl _, Nat.le_refl _, Nat.le_refl _, Nat.le_refl _⟩

theorem Issued.le_trans {a b c : Issued} (h : a ≤ b) (h' : b ≤ c) : a ≤ c :=
  ⟨Nat.le_trans h.1 h'.1, Nat.le_trans h.2.1 h'.2.1, Nat.le_trans h.2.2.1 h'.2.2.1,
    Nat.le_trans h.2.2.2 h'.2.2.2⟩

namespace Tables

variable {t : Tables} {c x : Contact} {id : Uuid}

theorem mem_of_contact? (h : t.contact? id = some c) : c ∈ t.contacts ∧ c.id = id := by
  refine ⟨List.mem_of_find?_eq_some h, ?_⟩
  simpa using List.find?_some h

theorem contact?_isSome_iff : (t.contact? id).isSome ↔ id ∈ t.contacts.map (·.id) := by
  rw [contact?, List.find?_isSome, List.mem_map]
  simp only [beq_iff_eq]

theorem mem_setContact (h : x ∈ t.contacts) (hx : x.id ≠ c.id) :
    x ∈ (t.setContact c).contacts := by
  apply List.mem_map.2
  exact ⟨x, h, by simp [hx]⟩

theorem setContact_mem (h : x ∈ t.contacts) (hx : x.id = c.id) :
    c ∈ (t.setContact c).contacts := by
  apply List.mem_map.2
  exact ⟨x, h, by simp [hx]⟩

theorem of_mem_setContact (h : x ∈ (t.setContact c).contacts) :
    x = c ∨ (x ∈ t.contacts ∧ x.id ≠ c.id) := by
  obtain ⟨y, hy, hyx⟩ := List.mem_map.1 h
  by_cases he : y.id = c.id
  · simp only [he, beq_self_eq_true, if_true] at hyx
    exact Or.inl hyx.symm
  · simp only [beq_iff_eq, he, if_false] at hyx
    subst hyx
    exact Or.inr ⟨hy, he⟩

theorem setContact_ids (t : Tables) (c : Contact) :
    (t.setContact c).contacts.map (·.id) = t.contacts.map (·.id) := by
  simp only [setContact, List.map_map]
  apply List.map_congr_left
  intro x _
  by_cases hx : x.id = c.id <;> simp [hx]

/-- With distinct identifiers, a row is the one that its identifier finds. -/
theorem contact?_of_mem (hn : (t.contacts.map (·.id)).Nodup) (hc : c ∈ t.contacts) :
    t.contact? c.id = some c := by
  unfold contact?
  generalize t.contacts = cs at hn hc
  induction cs with
  | nil => cases hc
  | cons x rest ih =>
    rw [List.map_cons, List.nodup_cons] at hn
    cases hc with
    | head => simp
    | tail _ hc =>
      have hx : x.id ≠ c.id := fun he => hn.1 (he ▸ List.mem_map_of_mem hc)
      simp [hx, ih hn.2 hc]

theorem eq_of_id (hn : (t.contacts.map (·.id)).Nodup) (hc : c ∈ t.contacts) (hx : x ∈ t.contacts)
    (hid : c.id = x.id) : c = x := by
  have he := contact?_of_mem hn hc
  rw [hid, contact?_of_mem hn hx] at he
  exact (Option.some.inj he).symm

end Tables

namespace Contacts

open AddressBook.Action

variable {env : Conditions} {s s' : Store} {c c' : Contact} {e : Failure}

theorem get_of_mem (hn : (s.tables.contacts.map (·.id)).Nodup) (hc : c ∈ s.tables.contacts) :
    get c.id s = .ok c s := by
  unfold get
  rw [bind_of_ok (tables_run s), Tables.contact?_of_mem hn hc]
  rfl

theorem of_get {id : Uuid} (h : get id s = .ok c s') :
    s' = s ∧ c ∈ s.tables.contacts ∧ c.id = id := by
  unfold get at h
  rw [bind_of_ok (tables_run s)] at h
  cases hf : s.tables.contact? id with
  | none => simp [hf] at h
  | some x =>
    rw [hf] at h
    cases h
    exact ⟨rfl, Tables.mem_of_contact? hf⟩

theorem after_get (id : Uuid) (s : Store) : after (get id) s = s := by
  unfold after get
  rw [bind_of_ok (tables_run s)]
  cases s.tables.contact? id <;> rfl

/-- The row of a new contact. -/
def newRow (s : Store) (fields : Fields) (upload : Option Uuid) (now : Instant) : Contact :=
  ⟨.numbered 0xc0 (s.issued.contacts + 1), fields, 1, true, upload, now, now⟩

theorem of_create {fields : Fields} {upload : Option Uuid}
    (h : create env fields upload s = .ok c s') :
    env.Fits fields.values ∧ c = newRow s fields upload env.now ∧
      s' = { s with
        tables := { s.tables with contacts := s.tables.contacts ++ [c] }
        issued := { s.issued with contacts := s.issued.contacts + 1 }
        tried := s.tried + 1 } := by
  obtain ⟨_, s₁, ha, h₁⟩ := bind_eq_ok.1 h
  obtain ⟨-, rfl⟩ := of_attempt ha
  rw [bind_of_ok (newContactId_run _)] at h₁
  obtain ⟨_, s₂, hd, h₂⟩ := bind_eq_ok.1 h₁
  obtain ⟨-, rfl⟩ := (bindInstant_checks env.now).of_ok hd
  obtain ⟨_, s₃, ht, h₃⟩ := bind_eq_ok.1 h₂
  obtain ⟨hfits, rfl⟩ := (bindTexts_checks fields.values).of_ok ht
  obtain ⟨_, s₄, hv, h₄⟩ := bind_eq_ok.1 h₃
  obtain ⟨-, rfl⟩ := (bindInteger_checks 1).of_ok hv
  cases h₄
  exact ⟨hfits, rfl, rfl⟩

theorem create_error {fields : Fields} {upload : Option Uuid}
    (h : create env fields upload s = .error e s') : s.issued ≤ s'.issued := by
  obtain ha | ⟨_, s₁, ha, h₁⟩ := bind_eq_error.1 h
  · rw [attempt_error ha]
    exact Issued.le_refl _
  obtain ⟨-, rfl⟩ := of_attempt ha
  rw [bind_of_ok (newContactId_run _)] at h₁
  have hi : s.issued ≤ { s.issued with contacts := s.issued.contacts + 1 } :=
    ⟨Nat.le_succ _, Nat.le_refl _, Nat.le_refl _, Nat.le_refl _⟩
  obtain hd | ⟨_, s₂, hd, h₂⟩ := bind_eq_error.1 h₁
  · rw [(bindInstant_checks _).of_error hd]
    exact hi
  obtain ⟨-, rfl⟩ := (bindInstant_checks _).of_ok hd
  obtain ht | ⟨_, s₃, ht, h₃⟩ := bind_eq_error.1 h₂
  · rw [(bindTexts_checks _).of_error ht]
    exact hi
  obtain ⟨-, rfl⟩ := (bindTexts_checks _).of_ok ht
  obtain hv | ⟨_, s₄, hv, h₄⟩ := bind_eq_error.1 h₃
  · rw [(bindInteger_checks _).of_error hv]
    exact hi
  cases h₄

theorem applyChanges_of_fits {changes : Changes} {version : Int}
    (hr : env.refusal s.tried (.updateContact c.id) = none)
    (ht : env.Fits (c.fields.apply changes).values) (hv : fitsSigned version) :
    applyChanges env c changes version s =
      .ok { c with fields := c.fields.apply changes, version, updated := env.now }
        { s with
          tables := s.tables.setContact
            { c with fields := c.fields.apply changes, version, updated := env.now }
          tried := s.tried + 1 } := by
  unfold applyChanges
  rw [bind_of_ok (attempt_of_none hr), bind_of_ok ((bindTexts_checks _).ok ht _),
    bind_of_ok ((bindInteger_checks _).ok hv _)]
  rfl

theorem of_applyChanges {changes : Changes} {version : Int}
    (h : applyChanges env c changes version s = .ok c' s') :
    env.refusal s.tried (.updateContact c.id) = none ∧
      env.Fits (c.fields.apply changes).values ∧ fitsSigned version := by
  obtain ⟨_, s₁, ha, h₁⟩ := bind_eq_ok.1 h
  obtain ⟨_, s₂, ht, h₂⟩ := bind_eq_ok.1 h₁
  obtain ⟨_, s₃, hv, -⟩ := bind_eq_ok.1 h₂
  exact ⟨(of_attempt ha).1, ((bindTexts_checks _).of_ok ht).1, ((bindInteger_checks _).of_ok hv).1⟩

theorem applyChanges_error {changes : Changes} {version : Int}
    (h : applyChanges env c changes version s = .error e s') :
    s' = { s with tried := s.tried + 1 } := by
  obtain ha | ⟨_, s₁, ha, h₁⟩ := bind_eq_error.1 h
  · exact attempt_error ha
  obtain ⟨-, rfl⟩ := of_attempt ha
  obtain ht | ⟨_, s₂, ht, h₂⟩ := bind_eq_error.1 h₁
  · exact (bindTexts_checks _).of_error ht
  obtain ⟨-, rfl⟩ := (bindTexts_checks _).of_ok ht
  obtain hv | ⟨_, s₃, hv, h₃⟩ := bind_eq_error.1 h₂
  · exact (bindInteger_checks _).of_error hv
  cases h₃

theorem setActive_error {id : Uuid} {active : Bool}
    (h : setActive env id active s = .error e s') : s'.issued = s.issued := by
  obtain hg | ⟨c, s₁, hg, h₁⟩ := bind_eq_error.1 h
  · rw [← after_get id s, after, hg]
  obtain ⟨rfl, -, -⟩ := of_get hg
  obtain ha | ⟨_, s₂, ha, h₂⟩ := bind_eq_error.1 h₁
  · rw [attempt_error ha]
  by_cases hact : c.active == active
  · rw [if_pos hact] at h₂
    cases h₂
  · rw [if_neg hact] at h₂
    cases h₂

/-- Putting a contact in or out of use changes nothing else, and nothing at all if it is so. -/
theorem of_setActive {id : Uuid} {active : Bool} (h : setActive env id active s = .ok c' s') :
    ∃ c ∈ s.tables.contacts, c.id = id ∧
      ((c.active = active ∧ c' = c ∧ s' = { s with tried := s.tried + 1 }) ∨
        (c.active ≠ active ∧ c' = { c with active, updated := env.now } ∧
          s' = { s with tables := s.tables.setContact c', tried := s.tried + 1 })) := by
  obtain ⟨c, s₁, hg, h₁⟩ := bind_eq_ok.1 h
  obtain ⟨hs, hc, hid⟩ := of_get hg
  subst hs
  obtain ⟨_, s₂, ha, h₂⟩ := bind_eq_ok.1 h₁
  obtain ⟨-, rfl⟩ := of_attempt ha
  refine ⟨c, hc, hid, ?_⟩
  by_cases hact : c.active = active
  · rw [if_pos (by simpa using hact)] at h₂
    cases h₂
    exact Or.inl ⟨hact, rfl, rfl⟩
  · rw [if_neg (by simpa using hact)] at h₂
    cases h₂
    exact Or.inr ⟨hact, rfl, rfl⟩

end Contacts
end AddressBook
