import AddressBook.Proofs.History.Descent
import AddressBook.Proofs.Service.Run

/-!
What becomes of each contact. It never goes away, its values and its version change together and
only by changes that are in the journal, and no snapshot is altered or lost.
-/
namespace AddressBook

/-- The changes of a contact that stand, last first. -/
def Store.revisions (s : Store) (id : Uuid) : List Revision := s.journal.filter (·.contact == id)

/-- One contact comes from another by changes of which all were made at certain times. -/
structure Successor (during : Instant → Prop) (s s' : Store) (c c' : Contact) : Prop where
  id : c'.id = c.id
  created : c'.created = c.created
  path : ∃ rs, s'.revisions c.id = rs ++ s.revisions c.id ∧
    Descent c.version c.fields rs c'.version c'.fields ∧ ∀ r ∈ rs, during r.time

/-- The changes of a contact lead from its first version to the present one. -/
def Traced (s : Store) (c : Contact) : Prop :=
  ∃ f₀, Descent 1 f₀ (s.revisions c.id) c.version c.fields

/-- A store continues another. -/
structure Continues (during : Instant → Prop) (s s' : Store) : Prop where
  contacts : ∀ c ∈ s.tables.contacts, ∃ c' ∈ s'.tables.contacts, Successor during s s' c c'
  origin : ∀ c' ∈ s'.tables.contacts,
    (∃ c ∈ s.tables.contacts, Successor during s s' c c') ∨ Traced s' c' ∧ during c'.created
  snapshots : s.tables.snapshots <+: s'.tables.snapshots

variable {p : Instant → Prop} {env : Conditions} {s s' s₁ : Store} {c c' c₁ : Contact}
  {changes : Changes} {kept : Option Snapshot} {steps : List Step}

theorem Successor.of_same (hid : c'.id = c.id) (hf : c'.fields = c.fields)
    (hv : c'.version = c.version) (hc : c'.created = c.created)
    (hr : s'.revisions c.id = s.revisions c.id) : Successor p s s' c c' :=
  ⟨hid, hc, [], hr, by rw [hv, hf]; exact .start, by simp⟩

theorem Successor.trans (h : Successor p s s₁ c c₁) (h' : Successor p s₁ s' c₁ c') :
    Successor p s s' c c' := by
  obtain ⟨rs, hrs, hd, ht⟩ := h.path
  obtain ⟨rs', hrs', hd', ht'⟩ := h'.path
  refine ⟨h'.id.trans h.id, h'.created.trans h.created, rs' ++ rs, ?_, hd.trans hd', ?_⟩
  · rw [← h.id, hrs', h.id, hrs, List.append_assoc]
  · intro r hr
    rcases List.mem_append.1 hr with hr | hr
    · exact ht' r hr
    · exact ht r hr

theorem Traced.successor (h : Traced s c) (hs : Successor p s s' c c') : Traced s' c' := by
  obtain ⟨f₀, hd⟩ := h
  obtain ⟨rs, hrs, hd', -⟩ := hs.path
  refine ⟨f₀, ?_⟩
  rw [hs.id, hrs]
  exact hd.trans hd'

theorem Continues.refl (s : Store) : Continues p s s :=
  ⟨fun c hc => ⟨c, hc, .of_same rfl rfl rfl rfl rfl⟩,
    fun c hc => Or.inl ⟨c, hc, .of_same rfl rfl rfl rfl rfl⟩, List.prefix_refl _⟩

theorem Continues.trans (h : Continues p s s₁) (h' : Continues p s₁ s') : Continues p s s' := by
  refine ⟨?_, ?_, h.snapshots.trans h'.snapshots⟩
  · intro c hc
    obtain ⟨c₁, hc₁, hs₁⟩ := h.contacts c hc
    obtain ⟨c', hc', hs'⟩ := h'.contacts c₁ hc₁
    exact ⟨c', hc', hs₁.trans hs'⟩
  · intro c' hc'
    obtain ⟨c₁, hc₁, hs'⟩ | hnew := h'.origin c' hc'
    · obtain ⟨c, hc, hs₁⟩ | ⟨htraced, ht⟩ := h.origin c₁ hc₁
      · exact Or.inl ⟨c, hc, hs₁.trans hs'⟩
      · rw [← hs'.created] at ht
        exact Or.inr ⟨htraced.successor hs', ht⟩
    · exact Or.inr hnew

theorem revisions_cons (hj : s'.journal = c.revision changes kept.isSome env.now :: s.journal)
    (id : Uuid) : s'.revisions id =
      if c.id = id then c.revision changes kept.isSome env.now :: s.revisions id
      else s.revisions id := by
  unfold Store.revisions
  rw [hj, List.filter_cons]
  simp only [Contact.revision, beq_iff_eq]

theorem revisions_of_journal (hj : s'.journal = s.journal) (id : Uuid) :
    s'.revisions id = s.revisions id := by
  unfold Store.revisions
  rw [hj]

/-- A new contact has no changes behind it. -/
theorem Numbered.revisions_newRow (h : Numbered s) (fields : Fields) (upload : Option Uuid) :
    s.revisions (Contacts.newRow s fields upload env.now).id = [] := by
  apply List.filter_eq_nil_iff.2
  intro r hr he
  exact (h.noted r hr).fresh (beq_iff_eq.1 he)

/-- A store in which each contact has its successor, and in which there are no others. -/
theorem Continues.of_map {g : Contact → Contact}
    (hc : s'.tables.contacts = s.tables.contacts.map g)
    (hg : ∀ x ∈ s.tables.contacts, Successor p s s' x (g x))
    (hs : s.tables.snapshots <+: s'.tables.snapshots) : Continues p s s' := by
  refine ⟨?_, ?_, hs⟩
  · intro c hmem
    exact ⟨g c, hc ▸ List.mem_map_of_mem hmem, hg c hmem⟩
  · intro c' hmem
    rw [hc] at hmem
    obtain ⟨c, hc₀, rfl⟩ := List.mem_map.1 hmem
    exact Or.inl ⟨c, hc₀, hg c hc₀⟩

/-- A recorded change makes the next version of its contact, and leaves all others as they are. -/
theorem Successor.of_recorded (hr : History.Recorded env c changes s s' kept) (ht : p env.now)
    (x : Contact) (hx : x.id = c.id → x = c) :
    Successor p s s' x (if x.id == c.id then c.revised changes env.now else x) := by
  simp only [beq_iff_eq]
  split
  case isTrue hid =>
    obtain rfl := hx hid
    refine ⟨rfl, rfl, [x.revision changes kept.isSome env.now], ?_, .revise .start, ?_⟩
    · rw [revisions_cons hr.journal, if_pos rfl]
      rfl
    · simpa [Contact.revision] using ht
  case isFalse hid =>
    apply Successor.of_same rfl rfl rfl rfl
    rw [revisions_cons hr.journal, if_neg (Ne.symm hid)]

theorem continues_move (ht : p env.now) (h : Numbered s) (hm : Move env s s') :
    Continues p s s' := by
  cases hm with
  | apart ha =>
    have hs (c : Contact) : Successor p s s' c c :=
      .of_same rfl rfl rfl rfl (revisions_of_journal ha.journal _)
    exact .of_map (g := id) (by rw [ha.contacts, List.map_id]) (fun x _ => hs x)
      (ha.snapshots ▸ List.prefix_refl _)
  | created fields upload fits contacts snapshots journal issued fresh =>
    have hs (c : Contact) : Successor p s s' c c :=
      .of_same rfl rfl rfl rfl (revisions_of_journal journal _)
    refine ⟨?_, ?_, snapshots ▸ List.prefix_refl _⟩
    · intro c hc
      exact ⟨c, contacts ▸ List.mem_append_left _ hc, hs c⟩
    · intro c hc
      rw [contacts, List.mem_append, List.mem_singleton] at hc
      rcases hc with hc | rfl
      · exact Or.inl ⟨c, hc, hs c⟩
      · refine Or.inr ⟨⟨fields, ?_⟩, ht⟩
        rw [revisions_of_journal journal, h.revisions_newRow]
        exact .start
  | revised c changes kept mem taken recorded =>
    apply Continues.of_map (by rw [recorded.tables]; rfl)
    · intro x hx
      exact .of_recorded recorded ht x fun hid => h.eq_of_id hx mem hid
    · rw [recorded.tables]
      exact List.prefix_append _ _
  | switched c active mem contacts snapshots journal issued =>
    apply Continues.of_map contacts
    · intro x hx
      have hr := revisions_of_journal journal x.id
      dsimp only
      split
      case isTrue hid =>
        obtain rfl := h.eq_of_id hx mem (by simpa using hid)
        exact .of_same rfl rfl rfl rfl hr
      case isFalse => exact .of_same rfl rfl rfl rfl hr
    · exact snapshots ▸ List.prefix_refl _

/-- Every run continues the store that it starts from. -/
theorem continues_run (h : Numbered s) (ht : ∀ x ∈ steps, p x.env.now) :
    Continues p s (s.run steps) :=
  relation_run (P := fun env => p env.now) (R := Continues p) Continues.refl
    (fun _ _ _ h h' => h.trans h') (fun _ _ _ ht h hm => continues_move ht h hm) h ht

end AddressBook
