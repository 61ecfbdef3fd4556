import AddressBook.Proofs.Http.Atomicity
import AddressBook.Proofs.Schema.Amending

/-!
What becomes of the tables when a request changes a contact. The fields that it names are set and
the version goes up by one; nothing else in the row changes, no other row does, and at most a
snapshot of what the contact was before comes in addition.
-/
namespace AddressBook.Http

open AddressBook.Action AddressBook.History Schema

/-- A request puts a JSON object to the path of a contact. -/
structure Puts (r : Request) (id : Uuid) (m : Members) : Prop where
  method : r.method = .put
  path : ∃ word, lookup .put (pathOf r.path) = .endpoint (.updateContact word) ∧
    pathId "contact_id" word = .ok id
  body : r.payload = .ok (.json (.object m))

/-- The store takes new values of a contact as its next version, and the commit behind them. -/
structure Storable (env : Conditions) (s : Store) (c : Contact) (v : Fields) : Prop where
  /-- The write before this one is that of a snapshot, which may be refused. -/
  write : env.refusal (s.tried + 1) (.updateContact c.id) = none
  fits : env.Fits v.values
  room : fitsSigned (c.version + 1)
  commit : env.refusal (s.tried + 2) .commit = none

/-- The tables are as they were but for the row of a contact, and maybe one more snapshot of it. -/
structure Updates (c c' : Contact) (t t' : Tables) (kept : Option Snapshot) : Prop where
  contacts : t'.contacts = t.contacts.map fun x => if x.id = c.id then c' else x
  snapshots : t'.snapshots = t.snapshots ++ kept.toList
  entry : ∀ p ∈ kept, p.contact = c.id ∧ p.version = c.version ∧ p.fields = c.fields
  elsewhere : t' = { t with contacts := t'.contacts, snapshots := t'.snapshots }

variable {env : Conditions} {s : Service} {s' : Store} {r : Request} {c : Contact} {m : Members}
  {id : Uuid} {changes : Changes} {kept : Option Snapshot} {steps : List Step}

/-- A request that puts an object asks for the change that the object describes. -/
theorem respond_put (env : Conditions) (hrun : s.running) (hputs : Puts r id m)
    (hvalid : contactChanges m = .ok changes) : respond env s r =
      (.ofResult 200 (s.run ((Operation.updateContact id changes).perform env)).1,
        (s.run ((Operation.updateContact id changes).perform env)).2) := by
  obtain ⟨hmethod, ⟨word, hlookup, hid⟩, hbody⟩ := hputs
  have hchanges : Payload.read contactChanges (.json (.object m)) = .ok changes :=
    congrArg (Checked.under (.member "body")) hvalid
  have hop : (Endpoint.updateContact word).operation? s.settings r (.json (.object m)) =
      some (.ok (.updateContact id changes)) := by
    rw [Endpoint.operation?, hid, hchanges]
    rfl
  have hasked : (Endpoint.updateContact word).asked? s r = some (.updateContact id changes) :=
    Endpoint.asked_of_payload rfl hbody hop
  rw [respond_of_asked env hrun (hmethod ▸ hlookup) hasked, run_perform hrun]
  rfl

theorem updates_of_recorded {t : Store} (h : Recorded env c changes t s' kept) :
    Updates c (c.revised changes env.now) t.tables s'.tables kept := by
  have hcontacts : s'.tables.contacts =
      (t.tables.setContact (c.revised changes env.now)).contacts := by rw [h.tables]
  refine ⟨?_, ?_, ?_, ?_⟩
  · rw [hcontacts]
    simp only [Tables.setContact, beq_iff_eq]
    rfl
  · rw [h.tables]
  · intro p hp
    rw [h.snapshot p hp]
    exact ⟨rfl, rfl, rfl⟩
  · rw [h.tables]
    rfl

theorem storable_iff {t : Store} : Storable env t c (c.fields.apply changes) ↔
    ChangeTaken env t c changes ∧ env.refusal (t.tried + 2) .commit = none :=
  ⟨fun h => ⟨⟨h.write, h.fits, h.room⟩, h.commit⟩, fun h => ⟨h.1.1, h.1.2.1, h.1.2.2, h.2⟩⟩

theorem run_update {t : Store} (env : Conditions) (changes : Changes)
    (hn : (t.tables.contacts.map (·.id)).Nodup) (hc : c ∈ t.tables.contacts) :
    (Operation.updateContact c.id changes).run env t =
      (do return .contact (← record env c changes) : Action Answer) t :=
  bind_of_ok (Contacts.get_of_mem hn hc)

/-- The operation behind such a request succeeds if the store takes all that it writes. -/
theorem perform_update {t : Store} (hn : (t.tables.contacts.map (·.id)).Nodup)
    (hc : c ∈ t.tables.contacts) (h : Storable env t c (c.fields.apply changes)) :
    ∃ kept s', (Operation.updateContact c.id changes).perform env t =
        .ok (.contact (c.revised changes env.now)) s' ∧
      Updates c (c.revised changes env.now) t.tables s'.tables kept := by
  obtain ⟨htaken, hcommit⟩ := storable_iff.1 h
  obtain ⟨kept, t₁, hrec, ht₁⟩ := record_of_taken htaken
  have hrun : (Operation.updateContact c.id changes).run env t =
      .ok (.contact (c.revised changes env.now)) t₁ := by
    rw [run_update env changes hn hc, bind_of_ok hrec]
    rfl
  rw [← ht₁.tried] at hcommit
  have hupdates := updates_of_recorded ht₁
  exact ⟨kept, _, transaction_of_ok hrun hcommit, hupdates⟩

theorem perform_update_error {t : Store} (hn : (t.tables.contacts.map (·.id)).Nodup)
    (hc : c ∈ t.tables.contacts) (h : ¬ Storable env t c (c.fields.apply changes)) :
    ∃ e s', (Operation.updateContact c.id changes).perform env t = .error e s' := by
  cases hperform : (Operation.updateContact c.id changes).perform env t with
  | error e s' => exact ⟨e, s', rfl⟩
  | ok a s' =>
    obtain ⟨t₁, hrun, hcommit, -⟩ := transaction_eq_ok.1 hperform
    rw [run_update env changes hn hc] at hrun
    obtain ⟨c', t₂, hrec, hanswer⟩ := bind_eq_ok.1 hrun
    obtain ⟨htaken, -, kept, ht₂⟩ := of_record hrec
    cases hanswer
    rw [ht₂.tried] at hcommit
    exact absurd (storable_iff.2 ⟨htaken, hcommit⟩) h

/-- A request to change a contact sets the fields that it names to the values that it gives for
them and raises the version by one, whether or not any value changes. All else stays, in the row
and in all tables, but for a snapshot that may be added. If the store does not take what is to be
written, the response tells of an error and all tables are as they were. -/
theorem update_frames (env : Conditions) (hrun : s.running) (hs : s.store = Store.run {} steps)
    (hc : c ∈ s.store.tables.contacts) (hputs : Puts r c.id m)
    (hvalid : contactChanges m = .ok changes) :
    ∃ v, Amended m c.fields v ∧
      (Storable env s.store c v → ∃ c' : Contact,
        c' = ⟨c.id, v, c.version + 1, c.active, c.upload, c.created, env.now⟩ ∧
        (respond env s r).1 = .answer 200 (.record c'.members) ∧
        ∃ kept, Updates c c' s.store.tables (respond env s r).2.store.tables kept) ∧
      (¬ Storable env s.store c v → 400 ≤ (respond env s r).1.status ∧
        (respond env s r).2.store.tables = s.store.tables) := by
  have hnumbered : Numbered s.store := hs ▸ numbered_run numbered_empty steps
  have hrespond := respond_put env hrun hputs hvalid
  refine ⟨c.fields.apply changes, amended_apply hvalid c.fields, ?_, ?_⟩
  · intro hstorable
    obtain ⟨kept, s', hperform, hupdates⟩ := perform_update hnumbered.nodup hc hstorable
    have hresult : s.run ((Operation.updateContact c.id changes).perform env) =
        (.ok (.contact (c.revised changes env.now)), { s with store := s' }) := by
      unfold Service.run
      rw [if_pos hrun, hperform]
    rw [hrespond, hresult]
    exact ⟨c.revised changes env.now, rfl, rfl, kept, hupdates⟩
  · intro hnot
    obtain ⟨e, s', hperform⟩ := perform_update_error hnumbered.nodup hc hnot
    have hstatus : 400 ≤ (respond env s r).1.status := by
      rw [hrespond]
      unfold Service.run
      rw [if_pos hrun, hperform]
      exact status_ofFailure e
    exact ⟨hstatus, (respond_atomic env s r).refused hstatus⟩

/-- The path of the only contact leads to the change of it. -/
theorem puts_oneContact (hmethod : r.method = .put) (hpath : r.path = renameBob.path)
    (hbody : r.payload = .ok (.json (.object m))) : Puts r (.numbered 0xc0 1) m := by
  have hplain : pathOf renameBob.path = renameBob.path := by decide +kernel
  have hlookup : lookup .put (pathOf r.path) = .endpoint
      (.updateContact (Text.ofString "c0000000-0000-4000-8000-000000000001")) := by
    rw [hpath, hplain]
    rfl
  exact ⟨hmethod, ⟨_, hlookup, rfl⟩, hbody⟩

theorem updated_renameBob : (respond (.fair 2) oneContact renameBob).1.status = 200 ∧
    ∃ c' ∈ (respond (.fair 2) oneContact renameBob).2.store.tables.contacts,
      c'.version = 2 ∧ .optional .text (c'.fields.get .name) = Json.text ['A', 'n', 'n'] := by
  have hbytes : renameBob.body = [0x7b, 0x22, 0x6e, 0x61, 0x6d, 0x65, 0x22, 0x3a, 0x22, 0x41, 0x6e,
      0x6e, 0x22, 0x7d] := by decide +kernel
  have hbody : renameBob.payload =
      .ok (.json (.object [(Text.ofString "name", .text ['A', 'n', 'n'])])) := by
    unfold Request.payload
    rw [hbytes]
    rfl
  have hc : (⟨.numbered 0xc0 1, { name := some ['B', 'o', 'b'] }, 1, true, none, 1, 1⟩ : Contact) ∈
      oneContact.store.tables.contacts := by decide
  obtain ⟨v, hv, hupdated, -⟩ := update_frames (.fair 2) rfl rfl hc
    (puts_oneContact rfl rfl hbody) rfl
  obtain ⟨c', rfl, hresponse, kept, hkept⟩ :=
    hupdated ⟨rfl, fun _ _ => rfl, by decide, rfl⟩
  have hname : .optional .text (v.get .name) = Json.text ['A', 'n', 'n'] := hv.named .name _ rfl
  refine ⟨congrArg Response.status hresponse, ⟨.numbered 0xc0 1, v, 2, true, none, 1, 2⟩, ?_, rfl,
    hname⟩
  rw [hkept.contacts]
  exact List.mem_map.2 ⟨_, hc, if_pos rfl⟩

/-- The request for notes that hold half of a surrogate pair. -/
def halfNotes : Request :=
  { renameBob with
    body := [0x7b, 0x22, 0x6e, 0x6f, 0x74, 0x65, 0x73, 0x22, 0x3a, 0x22, 0x5c, 0x75, 0x64, 0x38,
      0x30, 0x30, 0x22, 0x7d] }

/-- Conditions in a store that does not hold every text. -/
def boundedStore : Conditions := { Conditions.fair 2 with dialect := .bounded }

/-- Notes may hold any text, but the store cannot: a request in order may change nothing. -/
theorem update_fails_half : ¬ ∀ (env : Conditions) (s : Service) (steps : List Step) (r : Request)
    (c : Contact) (m : Members) (changes : Changes), (∀ n w, env.refusal n w = none) →
    s.running → s.store = Store.run {} steps → c ∈ s.store.tables.contacts → Puts r c.id m →
    contactChanges m = .ok changes →
    ∃ c' ∈ (respond env s r).2.store.tables.contacts, c'.id = c.id ∧ c'.version = c.version + 1 := by
  intro h
  have hbody : halfNotes.payload =
      .ok (.json (.object [(Text.ofString "notes", .text [Half.mark, Half.standIn 0xd800])])) := rfl
  obtain ⟨c', hc', -, hversion⟩ := h boundedStore oneContact _ halfNotes
    ⟨.numbered 0xc0 1, { name := some ['B', 'o', 'b'] }, 1, true, none, 1, 1⟩ _ _
    (fun _ _ => rfl) rfl rfl (by decide) (puts_oneContact rfl rfl hbody) rfl
  have hrefused : 400 ≤ (respond boundedStore oneContact halfNotes).1.status := by
    decide +kernel
  rw [(respond_atomic _ oneContact halfNotes).refused hrefused] at hc'
  obtain rfl : c' = ⟨.numbered 0xc0 1, { name := some ['B', 'o', 'b'] }, 1, true, none, 1, 1⟩ :=
    List.mem_singleton.1 hc'
  exact absurd hversion (by decide)

end AddressBook.Http
