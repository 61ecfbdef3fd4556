import AddressBook.Proofs.Sequence
import AddressBook.Proofs.Service.Elsewhere
import AddressBook.Proofs.Store.Identifiers

/-!
Every operation moves contacts and their history, and nothing else becomes of them. Loops over
contacts never write an outdated row, because no contact comes up twice in them.
-/
namespace AddressBook

open AddressBook.Action

variable {env : Conditions} {s s' : Store} {c : Contact} {cs : List Contact}

/-- All contacts but one are as they were. -/
def Aside (c : Contact) (s s' : Store) : Prop :=
  ∀ x ∈ s.tables.contacts, x.id ≠ c.id → x ∈ s'.tables.contacts

/-- A list names contacts as they are stored, each once. -/
structure Listed (s : Store) (cs : List Contact) : Prop where
  mem : ∀ c ∈ cs, c ∈ s.tables.contacts
  nodup : (cs.map (·.id)).Nodup

theorem Apart.aside (h : Apart s s') (c : Contact) : Aside c s s' := by
  intro x hx _
  rwa [h.contacts]

theorem Listed.rest (h : Listed s (c :: cs)) (ha : Aside c s s') : Listed s' cs := by
  obtain ⟨hc, hcs⟩ := List.nodup_cons.1 h.nodup
  refine ⟨?_, hcs⟩
  intro x hx
  apply ha x (h.mem x (List.mem_cons_of_mem _ hx))
  intro he
  exact hc (List.mem_map.2 ⟨x, hx, he⟩)

theorem Listed.apart (h : Listed s (c :: cs)) (ha : Apart s s') : Listed s' cs :=
  h.rest (ha.aside c)

theorem Numbered.listed (h : Numbered s) (p : Contact → Bool) :
    Listed s (s.tables.contacts.filter p) :=
  ⟨fun _ hc => (List.mem_filter.1 hc).1, h.nodup.sublist (List.filter_sublist.map _)⟩

theorem Listed.sorted (h : Listed s cs) (before : Contact → Contact → Bool) :
    Listed s (sortList before cs) :=
  ⟨fun c hc => h.mem c (mem_sortList.1 hc),
    ((sortList_perm before cs).map (·.id)).nodup_iff.2 h.nodup⟩

theorem leads_create (fields : Fields) (upload : Option Uuid) :
    Leads env (Contacts.create env fields upload) s fun _ _ => True := by
  apply Leads.intro
  · intro c s' h
    obtain ⟨hfits, rfl, rfl⟩ := Contacts.of_create h
    have hi : s.issued ≤ { s.issued with contacts := s.issued.contacts + 1 } :=
      ⟨Nat.le_succ _, Nat.le_refl _, Nat.le_refl _, Nat.le_refl _⟩
    exact ⟨.single (.created fields upload hfits rfl rfl rfl hi (Nat.lt_succ_self _)), trivial⟩
  · intro e s' h
    exact Contacts.create_error h

theorem History.Recorded.aside {changes : Changes} {kept : Option Snapshot}
    (h : History.Recorded env c changes s s' kept) : Aside c s s' := by
  intro x hx hne
  rw [h.tables]
  exact Tables.mem_setContact hx hne

theorem leads_record (changes : Changes) (hc : c ∈ s.tables.contacts) :
    Leads env (History.record env c changes) s fun _ s' => Aside c s s' := by
  apply Leads.intro
  · intro c' s' h
    obtain ⟨htaken, rfl, kept, hr⟩ := History.of_record h
    exact ⟨.single (.revised c changes kept hc htaken hr), hr.aside⟩
  · intro e s' h
    exact (History.record_error h).1

theorem leads_setActive (id : Uuid) (active : Bool) :
    Leads env (Contacts.setActive env id active) s fun _ _ => True := by
  apply Leads.intro
  · intro c' s' h
    obtain ⟨c, hc, -, ⟨-, -, rfl⟩ | ⟨-, rfl, rfl⟩⟩ := Contacts.of_setActive h
    · exact ⟨.single (.apart (Apart.tried s)), trivial⟩
    · exact ⟨.single (.switched c active hc rfl rfl rfl (Issued.le_refl _)), trivial⟩
  · intro e s' h
    rw [Contacts.setActive_error h]
    exact Issued.le_refl _

theorem leads_get (id : Uuid) :
    Leads env (Contacts.get id) s fun c s' => s' = s ∧ c ∈ s.tables.contacts ∧ c.id = id := by
  apply Leads.intro
  · intro c s' h
    obtain ⟨rfl, hc⟩ := Contacts.of_get h
    exact ⟨.refl, rfl, hc⟩
  · intro e s' h
    rw [← Contacts.after_get id s, after, h]
    exact Issued.le_refl _

theorem leads_tables : Leads env tables s fun t s' => s' = s ∧ t = s.tables := ⟨.refl, rfl, rfl⟩

theorem Leads.anything {α : Type} {act : Action α} {Q : α → Store → Prop}
    (h : Leads env act s Q) : Leads env act s fun _ _ => True := h.mono fun _ _ _ _ => trivial

theorem Spares.leads_anything {α : Type} {act : Action α} (h : Spares act) :
    Leads env act s fun _ _ => True := (h.leads s).anything

/-! ### Restoring -/

theorem leads_restore (id : Uuid) (version : Int) :
    Leads env (History.restore env id version) s fun _ _ => True := by
  apply (leads_get id).bind
  rintro c s₁ - ⟨rfl, hc, -⟩
  apply ((keeps_find? id version).spares.leads _).bind
  rintro (_ | p) s₂ - hs₂
  · exact leads_throw _
  · rw [← hs₂.contacts] at hc
    exact (leads_record _ hc).anything

theorem leads_restoreTo (time : Instant) (hc : c ∈ s.tables.contacts) :
    Leads env (History.restoreTo env time c) s fun _ s' => Aside c s s' := by
  apply ((keeps_latest? c.id time).spares.leads s).bind
  rintro (_ | p) s₁ - hs₁
  · exact leads_pure (hs₁.aside c)
  · dsimp only
    split
    · exact leads_pure (hs₁.aside c)
    · have hc₁ : c ∈ s₁.tables.contacts := by rwa [hs₁.contacts]
      apply (leads_record _ hc₁).bind
      rintro c' s₂ - hs₂
      refine leads_pure ?_
      intro x hx hne
      rw [← hs₁.contacts] at hx
      exact hs₂ x hx hne

theorem leads_restoreEach (time : Instant) (n : Nat) (h : Listed s cs) :
    Leads env (History.restoreEach env time cs n) s fun _ _ => True := by
  induction cs generalizing s n with
  | nil => exact leads_pure trivial
  | cons c rest ih =>
    apply (leads_restoreTo time (h.mem c (List.mem_cons_self ..))).recover.bind
    rintro (e | changed) s₁ - hs₁
    · exact ih n (h.apart hs₁)
    · cases changed with
      | false => exact ih n (h.rest hs₁)
      | true => exact ih (n + 1) (h.rest hs₁)

theorem leads_restoreAll (time : Instant) (h : Numbered s) :
    Leads env (History.restoreAll env time) s fun _ _ => True := by
  apply ((bindInstant_checks time).keeps.spares.leads s).bind
  rintro _ s₁ he -
  apply leads_tables.bind
  rintro t s₂ - ⟨rfl, rfl⟩
  apply leads_restoreEach
  exact ((numbered_evolves he h).listed _).sorted _

/-! ### Cleanup -/

theorem leads_apply (label : String) (r : Cleanup.Report) (changes : Changes)
    (hc : c ∈ s.tables.contacts) :
    Leads env (Cleanup.apply env label r c changes) s fun _ s' => Aside c s s' := by
  unfold Cleanup.apply
  split
  · exact leads_pure fun x hx _ => hx
  · apply (leads_record _ hc).recover.bind
    rintro (e | c') s₁ - hs₁
    · exact leads_pure (hs₁.aside c)
    · exact leads_pure hs₁

theorem leads_applyEach (label : String) (rule : Fields → Changes) (r : Cleanup.Report)
    (h : Listed s cs) :
    Leads env (Cleanup.applyEach env label rule cs r) s fun _ _ => True := by
  induction cs generalizing s r with
  | nil => exact leads_pure trivial
  | cons c rest ih =>
    apply (leads_apply label r _ (h.mem c (List.mem_cons_self ..))).bind
    intro r' s₁ _ hs₁
    exact ih r' (h.rest hs₁)

/-- A cleanup of those contacts that a test picks out. -/
theorem leads_cleaning (label : String) (rule : Fields → Changes) (p : Contact → Bool)
    (h : Numbered s) :
    Leads env (do
      let found := (← tables).contacts.filter p
      Cleanup.applyEach env label rule found {}) s fun _ _ => True := by
  apply leads_tables.bind
  rintro t s₁ - ⟨rfl, rfl⟩
  exact leads_applyEach label rule {} (h.listed p)

theorem leads_dropDuplicate (r : Cleanup.Report) (c : Contact) (mail : Text) :
    Leads env (Cleanup.dropDuplicate env r c mail) s fun _ _ => True := by
  apply (leads_setActive c.id false).recover.bind
  rintro (e | c') s₁ - -
  · exact leads_pure trivial
  · exact leads_pure trivial

theorem leads_dropEach (cs : List Contact) (seen : List Text) (r : Cleanup.Report) :
    Leads env (Cleanup.dropEach env cs seen r) s fun _ _ => True := by
  induction cs generalizing s seen r with
  | nil => exact leads_pure trivial
  | cons c rest ih =>
    simp only [Cleanup.dropEach]
    split
    · exact ih seen r
    · split
      · apply (leads_dropDuplicate r c _).bind
        intro r' s₁ _ _
        exact ih seen r'
      · exact ih _ r

theorem leads_duplicates : Leads env (Cleanup.duplicates env) s fun _ _ => True := by
  apply leads_tables.bind
  intro t s₁ _ _
  exact leads_dropEach _ _ _

theorem leads_general (h : Numbered s) :
    Leads env (Cleanup.general env) s fun _ _ => True := by
  apply (leads_cleaning _ _ _ h).bind
  intro a s₁ he₁ _
  have h₁ := numbered_evolves he₁ h
  apply (leads_cleaning _ _ _ h₁).bind
  intro b s₂ he₂ _
  apply leads_duplicates.bind
  intro c s₃ he₃ _
  have h₃ := numbered_evolves he₃ (numbered_evolves he₂ h₁)
  apply (leads_cleaning _ _ _ h₃).bind
  intro d s₄ _ _
  exact leads_pure trivial

theorem leads_cleanup (kind : Cleanup.Kind) (h : Numbered s) :
    Leads env (Cleanup.run env kind) s fun _ _ => True := by
  cases kind with
  | addresses => exact leads_cleaning _ _ _ h
  | emptyFields => exact leads_cleaning _ _ _ h
  | duplicates => exact leads_duplicates
  | general => exact leads_general h

/-! ### Import -/

theorem spares_setProgress (u : Upload) (processed : Int) (status : Option UploadStatus) :
    Spares (Uploads.setProgress env u processed status) := by
  refine Keeps.bind (R := Apart) (keeps_report _) fun _ => Keeps.ite (keeps_pure _) ?_
  refine (keeps_attempt _).bind fun _ => Keeps.bind (keeps_change_apart ?_ ?_) fun _ => keeps_pure _
  all_goals exact fun _ => rfl

theorem spares_createUpload (filename : Text) (total : Int) :
    Spares (Uploads.create env filename total) := by
  refine Keeps.bind (R := Apart) (keeps_attempt _) fun _ => keeps_newUploadId.bind fun _ =>
    Keeps.bind (keeps_change_apart ?_ ?_) fun _ => keeps_pure _
  all_goals exact fun _ => rfl

theorem leads_insertRows (upload : Uuid) (rows : List Fields) :
    Leads env (Csv.insertRows env upload rows) s fun _ _ => True := by
  induction rows generalizing s with
  | nil => exact leads_pure trivial
  | cons row rest ih =>
    apply (leads_create row (some upload)).bind
    intro c s₁ _ _
    exact ih

theorem leads_insertBatches (u : Upload) (done : Int) (batches : List (List Fields)) :
    Leads env (Csv.insertBatches env u done batches) s fun _ _ => True := by
  induction batches generalizing s u done with
  | nil => exact leads_pure trivial
  | cons batch rest ih =>
    apply (leads_insertRows u.id batch).bind
    intro _ s₁ _ _
    apply (spares_setProgress u (done + batch.length) none).leads_anything.bind
    intro u' s₂ _ _
    exact ih u' _

theorem leads_insertAll (u : Upload) (size : Int) (rows : List Fields) :
    Leads env (recover (Csv.insertAll env u size rows)) s fun _ _ => True := by
  have hall : Leads env (do
      Csv.insertBatches env u 0 (← ofExcept id (Csv.batches size rows))) s fun _ _ => True := by
    apply (keeps_ofExcept _ _).spares.leads_anything.bind
    intro parts s₁ _ _
    exact leads_insertBatches u 0 parts
  exact hall.recover.anything

theorem leads_import (filename content : Text) (size : Int) :
    Leads env (Csv.run env filename content size) s fun _ _ => True := by
  apply (keeps_ofExcept _ _).spares.leads_anything.bind
  intro rows s₁ _ _
  apply (spares_createUpload _ _).leads_anything.bind
  intro u s₂ _ _
  apply keeps_reports.spares.leads_anything.bind
  intro before s₃ _ _
  apply (leads_insertAll u size rows).bind
  rintro (e | ⟨u', done⟩) s₄ - -
  · apply Spares.leads_anything
    exact Keeps.bind keeps_reports fun _ => Keeps.ite (spares_setProgress _ _ _) (keeps_throw _)
  · exact (spares_setProgress u' done _).leads_anything

/-! ### Operations -/

/-- An action moves the store whatever it answers. -/
theorem Leads.answer {α : Type} {act : Action α} {Q : α → Store → Prop} (h : Leads env act s Q)
    (answer : α → Answer) : Leads env (do return answer (← act)) s fun _ _ => True :=
  h.bind fun _ _ _ _ => leads_pure trivial

theorem leads_importBytes (filename : Text) (content : List UInt8) (size : Int) :
    Leads env (Operation.importBytes env filename content size) s fun _ _ => True := by
  unfold Operation.importBytes
  split
  · exact leads_throw _
  · exact leads_import _ _ _

theorem leads_clean (label : Text) (h : Numbered s) :
    Leads env (Operation.clean env label) s fun _ _ => True := by
  unfold Operation.clean
  split
  · exact leads_throw _
  · exact (leads_cleanup _ h).answer _

/-- Every operation moves the store. -/
theorem leads_run (op : Operation) (h : Numbered s) :
    Leads env (Operation.run env op) s fun _ _ => True := by
  cases op with
  | search query listing => exact ((keeps_search query listing).spares.leads s).answer _
  | matchingIds r => exact ((keeps_findIds _ r.group).spares.leads s).answer _
  | createContact fields => exact (leads_create fields none).answer _
  | contact id =>
    exact ((keeps_get id).bind fun _ => (keeps_versions id).bind fun _ =>
      keeps_pure _).spares.leads_anything
  | updateContact id changes =>
    apply (leads_get id).bind
    rintro c s₁ - ⟨rfl, hc, -⟩
    exact (leads_record changes hc).answer _
  | deleteContact id => exact (leads_setActive id false).answer _
  | reactivateContact id => exact (leads_setActive id true).answer _
  | versions id => exact ((keeps_versions id).spares.leads s).answer _
  | restoreVersion id version => exact (leads_restore id version).answer _
  | restoreAll time => exact (leads_restoreAll time h).answer _
  | groups =>
    exact (Keeps.bind (keeps_tables.bind fun _ => keeps_pure _) fun _ =>
      keeps_tables.bind fun _ => keeps_pure _).spares.leads_anything
  | createGroup r => exact ((keeps_createGroup _ _ _).spares.leads s).answer _
  | group id => exact ((keeps_getGroup id).bind fun g => keeps_showGroup g).spares.leads_anything
  | updateGroup id changes =>
    exact ((keeps_changeGroup id changes).bind fun g => keeps_showGroup g).spares.leads_anything
  | deleteGroup id => exact ((keeps_deleteGroup id).bind fun _ => keeps_pure _).spares.leads_anything
  | addMembers id contacts => exact ((keeps_addMembers id contacts).spares.leads s).answer _
  | removeMembers id contacts => exact ((keeps_removeMembers id contacts).spares.leads s).answer _
  | display key => exact ((keeps_preferences key).spares.leads s).answer _
  | updateDisplay key u => exact ((keeps_changePreferences key u).spares.leads s).answer _
  | importCsv filename content size => exact (leads_importBytes filename content size).answer _
  | uploads count =>
    exact (Keeps.bind (keeps_tables.bind fun _ => keeps_pure _) fun _ =>
      keeps_pure _).spares.leads_anything
  | cleanup label => exact leads_clean label h

end AddressBook
