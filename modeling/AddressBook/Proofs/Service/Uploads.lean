import AddressBook.Proofs.Csv.Importing
import AddressBook.Proofs.Service.Run
import AddressBook.Proofs.Service.Steady

/-!
Uploads tell the truth. Each of them is over, and says how many contacts came from it. Uploads, and
contacts that come from one, are added by imports only, and nothing changes that afterwards.
-/
namespace AddressBook

open AddressBook.Action

/-- The number of contacts that came from an upload. -/
def Store.carried (s : Store) (id : Uuid) : Nat := s.tables.contacts.countP (·.upload = some id)

/-- Where each contact came from. -/
def origins (t : Tables) : List (Uuid × Option Uuid) := t.contacts.map fun c => (c.id, c.upload)

/-- An upload's identifier was given out. -/
def Registered (s : Store) (id : Uuid) : Prop := ∃ n ≤ s.issued.uploads, id = .numbered 0xd0 n

/-- An upload is over, and tells how many contacts came from it. -/
structure Told (s : Store) (u : Upload) : Prop where
  finished : u.status = .completed ∨ u.status = .failed
  carried : u.processed = s.carried u.id
  total : u.processed ≤ u.total
  failed : u.status = .failed → u.processed = 0

/-- What a store that operations have written comes to as far as uploads go. -/
structure Tallied (s : Store) : Prop where
  numbered : Numbered s
  uploads : ∀ u ∈ s.tables.uploads, Registered s u.id
  sources : ∀ c ∈ s.tables.contacts, ∀ id, c.upload = some id → Registered s id
  told : ∀ u ∈ s.tables.uploads, Told s u

/-- What a step does to uploads and to the origins of contacts. -/
inductive Filled (x : Step) (s s' : Store) : Prop where
  | idle (k : Nat) (uploads : s'.tables.uploads = s.tables.uploads)
      (sources : s'.tables.contacts.map (·.upload) =
        s.tables.contacts.map (·.upload) ++ List.replicate k none)
  | imported (u : Upload) (content : List UInt8) (size : Int) (text : Text) (rows : List Fields)
      (operation : x.operation = .importCsv u.filename content size)
      (decoded : Utf8.text? content = some text) (parsed : Csv.contacts text = .ok rows)
      (imported : Csv.Imported s u.filename rows.length size s' u)

variable {env : Conditions} {s s' : Store} {c c' : Contact} {x : Step} {steps : List Step}
  {u : Upload} {id : Uuid}

/-! ### Origins -/

theorem Numbered.setContact_origins (h : Numbered s) (hc : c ∈ s.tables.contacts)
    (hid : c'.id = c.id) (hu : c'.upload = c.upload) :
    origins (s.tables.setContact c') = origins s.tables := by
  unfold origins Tables.setContact
  rw [List.map_map]
  apply List.map_congr_left
  intro y hy
  simp only [Function.comp_apply, beq_iff_eq]
  split
  case isTrue he =>
    obtain rfl := h.eq_of_id hy hc (he.trans hid)
    rw [hid, hu]
  case isFalse => rfl

/-- A contact never changes its origin. -/
theorem origins_move (h : Numbered s) (hm : Move env s s') :
    origins s.tables <+: origins s'.tables := by
  cases hm with
  | apart ha =>
    have hsame : origins s'.tables = origins s.tables := by
      unfold origins
      rw [ha.contacts]
    exact hsame ▸ List.prefix_refl _
  | created fields upload fits contacts snapshots journal issued fresh =>
    unfold origins
    rw [contacts, List.map_append]
    exact List.prefix_append _ _
  | revised c changes kept mem taken recorded =>
    have hsame : origins (s.tables.setContact (c.revised changes env.now)) = origins s.tables :=
      h.setContact_origins mem rfl rfl
    have hnew : origins s'.tables = origins s.tables := by
      rw [recorded.tables]
      exact hsame
    exact hnew ▸ List.prefix_refl _
  | switched c active mem contacts snapshots journal issued =>
    have hsame : origins (s.tables.setContact { c with active, updated := env.now }) =
        origins s.tables := h.setContact_origins mem rfl rfl
    have hnew : origins s'.tables = origins s.tables := by
      rw [← hsame]
      unfold origins
      rw [contacts]
    exact hnew ▸ List.prefix_refl _

theorem steady_next (s : Store) (hx : x.operation.adds = false) : Steady s (s.next x) :=
  (steady_run x.operation hx).transaction s

/-- A step without an addition leaves the origins of contacts as they are. -/
theorem origins_next (h : Numbered s) (hx : x.operation.adds = false) :
    origins (s.next x).tables = origins s.tables := by
  -- moves only ever append origins, and there are as many contacts as before
  have hle : origins s.tables <+: origins (s.next x).tables :=
    relation_evolves (P := fun _ => True) (R := fun a b => origins a.tables <+: origins b.tables)
      (fun _ => List.prefix_refl _) (fun _ _ _ h h' => h.trans h')
      (fun _ _ _ _ hn hm => origins_move hn hm) trivial h (evolves_next h x)
  have hlength : (s.next x).tables.contacts.length = s.tables.contacts.length := by
    simpa using congrArg List.length (steady_next s hx).ids
  exact (hle.eq_of_length (by simp [origins, hlength])).symm

/-! ### One step -/

theorem Filled.of_tables (h : s'.tables = s.tables) : Filled x s s' :=
  .idle 0 (by rw [h]) (by rw [h, List.replicate_zero, List.append_nil])

theorem filled_create {fields : Fields} (s : Store)
    (hx : x.operation = .createContact fields) : Filled x s (s.next x) := by
  obtain h | ⟨a, s₁, hrun, hnext⟩ := next_tables s x
  · exact .of_tables h
  · rw [hx] at hrun
    obtain ⟨c, s₂, hc, h₂⟩ := bind_eq_ok.1 hrun
    obtain ⟨-, rfl, rfl⟩ := Contacts.of_create hc
    cases h₂
    rw [hnext]
    exact .idle 1 rfl (by simp [Contacts.newRow])

theorem filled_import {filename : Text} {content : List UInt8} {size : Int} (hn : Csv.Unused s)
    (hx : x.operation = .importCsv filename content size) : Filled x s (s.next x) := by
  obtain h | ⟨a, s₁, hrun, hnext⟩ := next_tables s x
  · exact .of_tables h
  · rw [hx] at hrun
    obtain ⟨u, s₂, hu, h₂⟩ := bind_eq_ok.1 hrun
    cases h₂
    unfold Operation.importBytes at hu
    cases hd : Utf8.text? content with
    | none =>
      rw [hd] at hu
      cases hu
    | some text =>
      rw [hd] at hu
      obtain ⟨rows, hrows, ⟨count, hcount, hp⟩, houtcome⟩ := Csv.of_run hu hn
      obtain rfl := hcount.filename
      rw [hnext]
      exact .imported u content size text rows hx hd hrows ⟨⟨count, ⟨hcount.uploads,
        hcount.contacts, hcount.number, hcount.issued, rfl, hcount.total⟩, hp⟩, houtcome⟩

/-- What a step may do. -/
theorem filled_next (h : Numbered s) (hn : Csv.Unused s) (x : Step) : Filled x s (s.next x) := by
  cases hop : x.operation with
  | createContact fields => exact filled_create s hop
  | importCsv filename content size => exact filled_import hn hop
  | _ =>
    have hx : x.operation.adds = false := by rw [hop]; rfl
    have hsources := congrArg (List.map Prod.snd) (origins_next h hx)
    simp only [origins, List.map_map, Function.comp_def] at hsources
    refine .idle 0 (steady_next s hx).uploads ?_
    rw [List.replicate_zero, List.append_nil]
    exact hsources

/-! ### Counting -/

theorem carried_eq (s : Store) (id : Uuid) :
    s.carried id = (s.tables.contacts.map (·.upload)).countP (· = some id) := by
  rw [List.countP_map]
  rfl

theorem carried_idle {k : Nat} (h : s'.tables.contacts.map (·.upload) =
    s.tables.contacts.map (·.upload) ++ List.replicate k none) (id : Uuid) :
    s'.carried id = s.carried id := by
  rw [carried_eq, carried_eq, h, List.countP_append, List.countP_replicate]
  simp

theorem carried_append {new : List Contact} (h : s'.tables.contacts = s.tables.contacts ++ new)
    (hnew : ∀ c ∈ new, c.upload = some u.id) (id : Uuid) :
    s'.carried id = s.carried id + if id = u.id then new.length else 0 := by
  unfold Store.carried
  rw [h, List.countP_append]
  congr 1
  split
  case isTrue he =>
    apply List.countP_eq_length.2
    intro c hc
    rw [decide_eq_true_eq, hnew c hc, he]
  case isFalse he =>
    apply List.countP_eq_zero.2
    intro c hc
    rw [decide_eq_true_eq, hnew c hc]
    exact fun heq => he (Option.some.inj heq).symm

theorem Registered.mono (h : Registered s id) (hi : s.issued ≤ s'.issued) : Registered s' id := by
  obtain ⟨n, hn, hid⟩ := h
  exact ⟨n, Nat.le_trans hn hi.2.2.2, hid⟩

theorem Registered.fresh (h : Registered s id) : id ≠ .numbered 0xd0 (s.issued.uploads + 1) :=
  Uuid.ne_numbered_succ h

theorem Tallied.unused (h : Tallied s) : Csv.Unused s := fun u hu => (h.uploads u hu).fresh

/-- No contact comes from an upload that is still to come. -/
theorem Tallied.carried_new (h : Tallied s) :
    s.carried (.numbered 0xd0 (s.issued.uploads + 1)) = 0 := by
  apply List.countP_eq_zero.2
  intro c hc
  rw [decide_eq_true_eq]
  exact fun he => (h.sources c hc _ he).fresh rfl

theorem Told.congr (h : Told s u) (hc : s'.carried u.id = s.carried u.id) : Told s' u :=
  ⟨h.finished, hc ▸ h.carried, h.total, h.failed⟩

theorem told_imported {size : Int} {rows : List Fields} (h : Tallied s)
    (hu : Csv.Imported s u.filename rows.length size s' u) : Told s' u := by
  obtain ⟨⟨count, hcount, hp⟩, houtcome⟩ := hu
  obtain ⟨new, hnew, hlength, hfrom⟩ := hcount.contacts
  refine ⟨?_, ?_, ?_, ?_⟩
  · exact houtcome.imp (·.1) (·.1)
  · have hzero : s.carried u.id = 0 := hcount.number ▸ h.carried_new
    rw [hp, carried_append hnew hfrom, if_pos rfl, hzero, hlength, Nat.zero_add]
  · rw [hcount.total]
    obtain ⟨-, hp⟩ | ⟨-, hp⟩ := houtcome
    · rw [hp]
      split <;> omega
    · omega
  · intro hfailed
    obtain ⟨hcompleted, -⟩ | ⟨-, hp⟩ := houtcome
    · rw [hfailed] at hcompleted
      cases hcompleted
    · exact hp

/-! ### Runs -/

theorem tallied_empty : Tallied {} := ⟨numbered_empty, by simp, by simp, by simp⟩

theorem tallied_filled (h : Tallied s) (hn : Numbered s') (hi : s.issued ≤ s'.issued)
    (hf : Filled x s s') : Tallied s' := by
  cases hf with
  | idle k uploads sources =>
    refine ⟨hn, ?_, ?_, ?_⟩
    · intro u hu
      exact (h.uploads u (uploads ▸ hu)).mono hi
    · intro c hc id hid
      have hmem : some id ∈ s'.tables.contacts.map (·.upload) := hid ▸ List.mem_map_of_mem hc
      rw [sources, List.mem_append] at hmem
      rcases hmem with hmem | hmem
      · obtain ⟨d, hd, hdu⟩ := List.mem_map.1 hmem
        exact (h.sources d hd id hdu).mono hi
      · cases (List.mem_replicate.1 hmem).2
    · intro u hu
      exact (h.told u (uploads ▸ hu)).congr (carried_idle sources u.id)
  | imported u content size text rows operation decoded parsed imported =>
    have htold := told_imported h imported
    obtain ⟨⟨count, hcount, -⟩, -⟩ := imported
    obtain ⟨new, hnew, -, hfrom⟩ := hcount.contacts
    have hregistered : Registered s' u.id := ⟨_, hcount.issued, hcount.number⟩
    refine ⟨hn, ?_, ?_, ?_⟩
    · intro v hv
      rw [hcount.uploads, List.mem_append, List.mem_singleton] at hv
      rcases hv with hv | rfl
      · exact (h.uploads v hv).mono hi
      · exact hregistered
    · intro c hc id hid
      rw [hnew, List.mem_append] at hc
      rcases hc with hc | hc
      · exact (h.sources c hc id hid).mono hi
      · obtain rfl := Option.some.inj ((hfrom c hc).symm.trans hid)
        exact hregistered
    · intro v hv
      rw [hcount.uploads, List.mem_append, List.mem_singleton] at hv
      rcases hv with hv | rfl
      · apply (h.told v hv).congr
        rw [carried_append hnew hfrom, if_neg (hcount.number ▸ h.unused v hv), Nat.add_zero]
      · exact htold

theorem tallied_next (h : Tallied s) (x : Step) : Tallied (s.next x) := by
  have he := evolves_next h.numbered x
  exact tallied_filled h (numbered_evolves he h.numbered) he.issued_le
    (filled_next h.numbered h.unused x)

theorem tallied_run (h : Tallied s) (steps : List Step) : Tallied (s.run steps) := by
  induction steps generalizing s with
  | nil => exact h
  | cons x rest ih => exact ih (tallied_next h x)

/-- The import that an upload came from, among the steps from a store. -/
structure Imports (s : Store) (steps : List Step) (u : Upload) (x : Step) (size : Int) : Prop where
  /-- The upload was not there before the step, and it was there after it. -/
  split : ∃ early late, steps = early ++ x :: late ∧ u ∉ (s.run early).tables.uploads ∧
    u ∈ (s.run (early ++ [x])).tables.uploads
  document : ∃ content text rows, x.operation = .importCsv u.filename content size ∧
    Utf8.text? content = some text ∧ Csv.contacts text = .ok rows ∧ u.total = rows.length
  completed : u.status = .completed → u.processed = if size < 0 then 0 else u.total

theorem imports_next (h : Tallied s) (x : Step) (hu : u ∈ (s.next x).tables.uploads) :
    u ∈ s.tables.uploads ∨ ∃ size, ∀ rest, Imports s (x :: rest) u x size := by
  have hf := filled_next h.numbered h.unused x
  cases hf with
  | idle k uploads sources => exact Or.inl (uploads ▸ hu)
  | imported v content size text rows operation decoded parsed imported =>
    obtain ⟨⟨count, hcount, -⟩, houtcome⟩ := imported
    have hmem := hu
    rw [hcount.uploads, List.mem_append, List.mem_singleton] at hmem
    rcases hmem with hmem | rfl
    · exact Or.inl hmem
    · refine Or.inr ⟨size, fun rest => ⟨⟨[], rest, rfl, ?_, hu⟩, ?_, ?_⟩⟩
      · exact fun hold => h.unused u hold hcount.number
      · exact ⟨content, text, rows, operation, decoded, parsed, hcount.total⟩
      · intro hcompleted
        obtain ⟨-, hp⟩ | ⟨hfailed, -⟩ := houtcome
        · rw [hp, hcount.total]
        · rw [hcompleted] at hfailed
          cases hfailed

/-- Every new upload came from one of the steps. -/
theorem imports_run (h : Tallied s) (hu : u ∈ (s.run steps).tables.uploads) :
    u ∈ s.tables.uploads ∨ ∃ x ∈ steps, ∃ size, Imports s steps u x size := by
  induction steps generalizing s with
  | nil => exact Or.inl hu
  | cons y rest ih =>
    by_cases hold : u ∈ s.tables.uploads
    · exact Or.inl hold
    obtain hnext | ⟨x, hx, size, ⟨early, late, rfl, hbefore, hafter⟩, hdocument, hcompleted⟩ :=
      ih (tallied_next h y) hu
    · obtain hold' | ⟨size, himports⟩ := imports_next h y hnext
      · exact absurd hold' hold
      · exact Or.inr ⟨y, List.mem_cons_self .., size, himports rest⟩
    · exact Or.inr ⟨x, List.mem_cons_of_mem _ hx, size, ⟨y :: early, late, rfl, hbefore, hafter⟩,
        hdocument, hcompleted⟩

/-- An upload in a store that some steps have led to. -/
structure Accounted (steps : List Step) (u : Upload) : Prop where
  finished : u.status = .completed ∨ u.status = .failed
  range : 0 ≤ u.processed ∧ u.processed ≤ u.total
  carried : u.processed = (Store.run {} steps).carried u.id
  failed : u.status = .failed → u.processed = 0
  /-- It came from one import, and only a negative size makes that skip rows unnoticed. -/
  imported : ∃ x ∈ steps, ∃ size, Imports {} steps u x size

/-- Every run accounts for each upload. -/
theorem accounted_run (steps : List Step) (hu : u ∈ (Store.run {} steps).tables.uploads) :
    Accounted steps u := by
  have htold := (tallied_run tallied_empty steps).told u hu
  refine ⟨htold.finished, ⟨?_, htold.total⟩, htold.carried, htold.failed, ?_⟩
  · have := htold.carried
    omega
  · obtain hold | himported := imports_run tallied_empty hu
    · cases hold
    · exact himported

/-- A document of three contacts is imported in two batches, and again while the last of them is
refused. -/
def importedTwice : List Step :=
  let document := Text.ofString "name\na\nb\nc\n"
  [⟨.fair 1, .importCsv ['f'] (document.map fun c => c.val.toUInt8) 2⟩,
    ⟨{ Conditions.fair 2 with
      refusal := fun _ w => if w = .insertContact { name := some ['c'] } then some [] else none },
      .importCsv ['g'] (document.map fun c => c.val.toUInt8) 3⟩]

theorem accounted_importedTwice :
    Accounted importedTwice ⟨.numbered 0xd0 1, ['f'], 3, 3, .completed, 1, 1⟩ ∧
    Accounted importedTwice ⟨.numbered 0xd0 2, ['g'], 3, 0, .failed, 2, 2⟩ :=
  ⟨accounted_run importedTwice (by decide +kernel), accounted_run importedTwice (by decide +kernel)⟩

/-- A document of one contact is imported. -/
def importedOnce (size : Int) : List Step :=
  [⟨.fair 1, .importCsv ['f'] [110, 97, 109, 101, 10, 97, 10] size⟩]

/-- An import in batches of negative size is completed without its contacts. -/
theorem completed_short : ¬ ∀ (steps : List Step) (u : Upload),
    u ∈ (Store.run {} steps).tables.uploads → u.status = .completed →
      u.processed = u.total ∧ u.total = (Store.run {} steps).carried u.id := by
  intro h
  have hshort := h (importedOnce (-1)) ⟨.numbered 0xd0 1, ['f'], 1, 0, .completed, 1, 1⟩
    (by decide +kernel) rfl
  exact absurd hshort.1 (by decide)

end AddressBook
