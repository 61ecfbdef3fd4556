import AddressBook.Proofs.Cleanup.Lengths
import AddressBook.Proofs.Csv.Importing
import AddressBook.Proofs.History.Recording
import AddressBook.Proofs.Service.Run
import AddressBook.Proofs.Store.Leaving

/-!
Contacts and snapshots keep within the limits of fields, as long as no imported document holds a
value beyond them, and no cleanup comes to one when it fills names and e-mail addresses or puts them
in lower case.
-/
namespace AddressBook

open AddressBook.Action

/-- The values of all contacts have a property, and those of all snapshots are within the limits. -/
structure Holding (P : Fields → Prop) (t : Tables) : Prop where
  contacts : ∀ c ∈ t.contacts, P c.fields
  snapshots : ∀ p ∈ t.snapshots, p.fields.Within

instance (P : Fields → Prop) : GroupFree (Preserves (Holding P)) where
  elsewhere h hi := ⟨fun c hc => hi.contacts c (h.contacts ▸ hc),
    fun p hp => hi.snapshots p (h.snapshots ▸ hp)⟩
  trans h h' hi := h' (h hi)
  back _ hi := hi

variable {env : Conditions} {P P' : Fields → Prop} {s : Store} {t : Tables} {c : Contact}
  {cs : List Contact} {changes : Changes} {rule : Fields → Changes}

theorem Holding.mono (h : Holding P t) (hp : ∀ v, P v → P' v) : Holding P' t :=
  ⟨fun c hc => hp _ (h.contacts c hc), h.snapshots⟩

/-! ### Changes of contacts -/

theorem leaves_setContact (hc : P c.fields) :
    Leaves (Holding P) (Holding P) (change (·.setContact c)) fun _ => True := by
  apply leaves_change
  intro t ht
  refine ⟨?_, ht.snapshots⟩
  intro x hx
  obtain rfl | ⟨hx, -⟩ := Tables.of_mem_setContact hx
  · exact hc
  · exact ht.contacts x hx

theorem leaves_keep (hc : c.fields.Within) :
    Leaves (Holding P) (Holding P) (History.keep env c) fun _ => True := by
  intro s hs
  obtain ⟨kept, s', h, hs'⟩ := History.keep_run env c s
  rw [h]
  refine ⟨trivial, ?_⟩
  rw [hs'.tables]
  refine ⟨hs.contacts, ?_⟩
  intro p hp
  rcases List.mem_append.1 hp with hp | hp
  · exact hs.snapshots p hp
  · rw [hs'.snapshot p (Option.mem_toList.1 hp)]
    exact hc

theorem leaves_record (hc : c.fields.Within) (hv : P (c.fields.apply changes)) :
    Leaves (Holding P) (Holding P) (History.record env c changes) fun _ => True := by
  refine (leaves_keep hc).bind fun kept _ => Leaves.bind (P := fun _ => True) ?_ fun c' _ => ?_
  · refine (keeps_attempt _).leaves.bind fun _ _ => ?_
    refine (bindTexts_checks _).keeps.leaves.bind fun _ _ => ?_
    refine (bindInteger_checks _).keeps.leaves.bind fun _ _ => ?_
    exact Leaves.bind (leaves_setContact hv) fun _ _ => leaves_pure trivial
  · have hnote : ∀ r, Keeps (Preserves (Holding P)) (note r) := fun r s hs => hs
    exact (hnote _).leaves.bind fun _ _ => leaves_pure trivial

theorem leaves_get (id : Uuid) :
    Leaves (Holding P) (Holding P) (Contacts.get id) fun c => P c.fields := by
  apply leaves_tables.bind
  intro t ht
  cases h : t.contact? id with
  | none => exact fun _ hs => hs
  | some c => exact leaves_pure (ht.contacts c (Tables.mem_of_contact? h).1)

theorem leaves_setActive (id : Uuid) (active : Bool) :
    Leaves (Holding P) (Holding P) (Contacts.setActive env id active) fun _ => True := by
  refine (leaves_get id).bind fun c hc => (keeps_attempt _).leaves.bind fun _ _ => ?_
  dsimp only
  split
  · exact leaves_pure trivial
  · exact Leaves.bind (leaves_setContact hc) fun _ _ => leaves_pure trivial

theorem leaves_create {fields : Fields} (upload : Option Uuid) (h : P fields) :
    Leaves (Holding P) (Holding P) (Contacts.create env fields upload) fun _ => True := by
  refine (keeps_attempt _).leaves.bind fun _ _ => keeps_newContactId.leaves.bind fun id _ => ?_
  refine (bindInstant_checks _).keeps.leaves.bind fun _ _ => ?_
  refine (bindTexts_checks _).keeps.leaves.bind fun _ _ => ?_
  refine (bindInteger_checks _).keeps.leaves.bind fun _ _ => ?_
  refine Leaves.bind (leaves_change ?_) fun _ _ => leaves_pure trivial
  intro t ht
  refine ⟨?_, ht.snapshots⟩
  intro c hc
  rcases List.mem_append.1 hc with hc | hc
  · exact ht.contacts c hc
  · rw [List.mem_singleton.1 hc]
    exact h

/-! ### Restoring -/

theorem leaves_find? (id : Uuid) (version : Int) : Leaves (Holding P) (Holding P)
    (Snapshots.find? id version) fun found => ∀ p ∈ found, p.fields.Within := by
  refine (bindInteger_checks _).keeps.leaves.bind fun _ _ => leaves_tables.bind fun t ht => ?_
  apply leaves_pure
  intro p hp
  exact ht.snapshots p (List.mem_of_find?_eq_some hp)

theorem leaves_latest? (id : Uuid) (time : Instant) : Leaves (Holding P) (Holding P)
    (Snapshots.latest? id time) fun found => ∀ p ∈ found, p.fields.Within := by
  refine (bindInstant_checks _).keeps.leaves.bind fun _ _ => leaves_tables.bind fun t ht => ?_
  apply leaves_pure
  intro p hp
  have hmem := mem_sortList.1 (List.mem_of_find?_eq_some hp)
  exact ht.snapshots p (List.mem_filter.1 hmem).1

theorem leaves_restore (id : Uuid) (version : Int) :
    Leaves (Holding Fields.Within) (Holding Fields.Within) (History.restore env id version)
      fun _ => True := by
  refine (leaves_get id).bind fun c hc => (leaves_find? id version).bind fun found hfound => ?_
  cases found with
  | none => exact (keeps_throw _).leaves
  | some p => exact leaves_record hc (hc.toChanges (hfound p rfl))

theorem leaves_restoreTo (time : Instant) (hc : c.fields.Within) :
    Leaves (Holding Fields.Within) (Holding Fields.Within) (History.restoreTo env time c)
      fun _ => True := by
  refine (leaves_latest? c.id time).bind fun found hfound => ?_
  cases found with
  | none => exact leaves_pure trivial
  | some p =>
    dsimp only
    split
    · exact leaves_pure trivial
    · exact (leaves_record hc (hc.toChanges (hfound p rfl))).bind fun _ _ => leaves_pure trivial

theorem leaves_restoreEach (time : Instant) (n : Nat) (h : ∀ c ∈ cs, c.fields.Within) :
    Leaves (Holding Fields.Within) (Holding Fields.Within) (History.restoreEach env time cs n)
      fun _ => True := by
  induction cs generalizing n with
  | nil => exact leaves_pure trivial
  | cons c rest ih =>
    have hrest := fun n => ih n fun x hx => h x (List.mem_cons_of_mem _ hx)
    have hc := h c (List.mem_cons_self ..)
    refine (leaves_restoreTo time hc).savepoint.recover.bind fun turn _ => ?_
    split
    · exact hrest _
    · exact hrest _

theorem leaves_restoreAll (time : Instant) :
    Leaves (Holding Fields.Within) (Holding Fields.Within) (History.restoreAll env time)
      fun _ => True := by
  refine (bindInstant_checks _).keeps.leaves.bind fun _ _ => leaves_tables.bind fun t ht => ?_
  apply leaves_restoreEach
  intro c hc
  exact ht.contacts c (List.mem_filter.1 (mem_sortList.1 hc)).1

/-! ### Imports -/

/-- The contacts of a document in bytes; there are none if it cannot be read. -/
def Csv.rows (content : List UInt8) : List Fields :=
  match Utf8.text? content with
  | none => []
  | some t =>
    match contacts t with
    | .ok rows => rows
    | .error _ => []

theorem leaves_createUpload (filename : Text) (total : Int) :
    Leaves (Holding P) (Holding P) (Uploads.create env filename total) fun _ => True := by
  refine (keeps_attempt _).leaves.bind fun _ _ => keeps_newUploadId.leaves.bind fun _ _ => ?_
  exact (leaves_change fun t ht => ⟨ht.contacts, ht.snapshots⟩).bind fun _ _ => leaves_pure trivial

theorem leaves_setProgress (u : Upload) (processed : Int) (status : Option UploadStatus) :
    Leaves (Holding P) (Holding P) (Uploads.setProgress env u processed status)
      fun _ => True := by
  refine (keeps_report _).leaves.bind fun _ _ => ?_
  dsimp only
  split
  · exact leaves_pure trivial
  · refine (keeps_attempt _).leaves.bind fun _ _ => ?_
    exact (leaves_change fun t ht => ⟨ht.contacts, ht.snapshots⟩).bind fun _ _ =>
      leaves_pure trivial

theorem leaves_insertRows {rows : List Fields} (upload : Uuid) (h : ∀ row ∈ rows, P row) :
    Leaves (Holding P) (Holding P) (Csv.insertRows env upload rows) fun _ => True := by
  induction rows with
  | nil => exact leaves_pure trivial
  | cons row rest ih =>
    have hrest := ih fun x hx => h x (List.mem_cons_of_mem _ hx)
    exact (leaves_create _ (h row (List.mem_cons_self ..))).bind fun _ _ => hrest

theorem leaves_insertBatches {batches : List (List Fields)} (u : Upload) (done : Int)
    (h : ∀ row ∈ batches.flatten, P row) :
    Leaves (Holding P) (Holding P) (Csv.insertBatches env u done batches) fun _ => True := by
  induction batches generalizing u done with
  | nil => exact leaves_pure trivial
  | cons batch rest ih =>
    rw [List.flatten_cons] at h
    have hbatch : ∀ row ∈ batch, P row := fun x hx => h x (List.mem_append_left _ hx)
    have hrest := fun u done => ih u done fun x hx => h x (List.mem_append_right _ hx)
    refine (leaves_insertRows u.id hbatch).bind fun _ _ => ?_
    exact (leaves_setProgress u _ none).bind fun u' _ => hrest u' _

theorem leaves_insertAll {rows : List Fields} (u : Upload) (size : Int) (h : ∀ row ∈ rows, P row) :
    Leaves (Holding P) (Holding P) (Csv.insertAll env u size rows) fun _ => True := by
  apply Leaves.savepoint
  refine (leaves_ofExcept id _).bind fun batches hbatches => leaves_insertBatches u 0 ?_
  rw [Csv.batches_flatten hbatches]
  split
  · exact fun _ hrow => absurd hrow List.not_mem_nil
  · exact h

theorem leaves_import (filename : Text) (content : List UInt8) (size : Int)
    (h : ∀ row ∈ Csv.rows content, P row) :
    Leaves (Holding P) (Holding P) (Operation.importBytes env filename content size)
      fun _ => True := by
  unfold Operation.importBytes
  unfold Csv.rows at h
  split
  · exact (keeps_throw _).leaves
  · rename_i doc hdoc
    rw [hdoc] at h
    refine (leaves_ofExcept _ _).bind fun rows hrows => ?_
    simp only [hrows] at h
    refine (leaves_createUpload filename _).bind fun u _ => keeps_reports.leaves.bind fun _ _ => ?_
    refine (leaves_insertAll u size h).recover.bind fun r _ => ?_
    split
    · exact leaves_setProgress _ _ _
    · refine keeps_reports.leaves.bind fun _ _ => ?_
      split
      · exact leaves_setProgress _ _ _
      · exact (keeps_throw _).leaves

/-! ### Cleanups -/

namespace Cleanup

/-- A rule keeps a property that only values within the limits have. -/
structure Sound (rule : Fields → Changes) (P : Fields → Prop) : Prop where
  plain : Plain rule
  within : ∀ v, P v → v.Within
  keeps : ∀ v, P v → P (v.apply (rule v))

theorem leaves_apply (label : String) (r : Report) (h : Sound rule P) (hc : P c.fields) :
    Leaves (Holding P) (Holding P) (apply env label r c (rule c.fields)) fun _ => True := by
  have hkeeps := h.keeps _ hc
  rw [← Fields.apply_filter _ (h.plain _)] at hkeeps
  unfold apply
  split
  · exact leaves_pure trivial
  · refine (leaves_record (h.within _ hc) hkeeps).savepoint.recover.bind fun turn _ => ?_
    split
    · exact leaves_pure trivial
    · exact leaves_pure trivial

theorem leaves_applyEach (label : String) (r : Report) (h : Sound rule P)
    (hcs : ∀ c ∈ cs, P c.fields) :
    Leaves (Holding P) (Holding P) (applyEach env label rule cs r) fun _ => True := by
  induction cs generalizing r with
  | nil => exact leaves_pure trivial
  | cons c rest ih =>
    have hrest := fun r => ih r fun x hx => hcs x (List.mem_cons_of_mem _ hx)
    exact (leaves_apply label r h (hcs c (List.mem_cons_self ..))).bind fun r' _ => hrest r'

/-- A pass that changes fields of those contacts that a test picks out. -/
theorem leaves_cleaning (label : String) (p : Contact → Bool) (h : Sound rule P) :
    Leaves (Holding P) (Holding P) (do
      let found := (← tables).contacts.filter p
      applyEach env label rule found {}) fun _ => True :=
  leaves_tables.bind fun _ ht =>
    leaves_applyEach label {} h fun c hc => ht.contacts c (List.mem_filter.1 hc).1

theorem leaves_dropDuplicate (r : Report) (c : Contact) (mail : Text) :
    Leaves (Holding P) (Holding P) (dropDuplicate env r c mail) fun _ => True := by
  refine (leaves_setActive c.id false).savepoint.recover.bind fun turn _ => ?_
  split
  · exact leaves_pure trivial
  · exact leaves_pure trivial

theorem leaves_dropEach (seen : List Text) (r : Report) :
    Leaves (Holding P) (Holding P) (dropEach env cs seen r) fun _ => True := by
  induction cs generalizing seen r with
  | nil => exact leaves_pure trivial
  | cons c rest ih =>
    unfold dropEach
    dsimp only
    split
    · exact ih seen r
    · split
      · exact (leaves_dropDuplicate r c _).bind fun r' _ => ih seen r'
      · exact ih _ r

theorem leaves_duplicates : Leaves (Holding P) (Holding P) (duplicates env) fun _ => True :=
  leaves_tables.bind fun _ _ => leaves_dropEach [] {}

theorem sound_address : Sound addressRule Fields.Within := by
  refine ⟨plain_addressRule, fun _ h => h, ?_⟩
  intro v h
  rw [apply_addressRule, Fields.within_iff] at *
  exact h

theorem sound_empty : Sound emptyRule fun v => v.Within ∧ v.filled.Within :=
  ⟨plain_emptyRule, fun _ h => h.1, fun _ h => ⟨h.2, within_filled_filled h.2⟩⟩

theorem sound_normal : Sound normalRule fun v => v.Within ∧ v.normal.Within := by
  refine ⟨plain_normalRule, fun _ h => h.1, fun v h => ⟨h.2, ?_⟩⟩
  rw [← normal_normal] at h
  exact h.2

theorem leaves_general :
    Leaves (Holding Fields.Cleanable) (Holding Fields.Within) (general env) fun _ => True := by
  have hout : ∀ t, Holding Fields.Cleanable t → Holding Fields.Within t :=
    fun _ h => h.mono fun _ hv => hv.within
  have haddress : Sound addressRule Fields.Cleanable :=
    ⟨plain_addressRule, fun _ h => h.within, fun _ h => cleanable_address h⟩
  have hempty : Sound emptyRule Fields.Cleanable :=
    ⟨plain_emptyRule, fun _ h => h.within, fun _ h => cleanable_filled h⟩
  have hnormal : Leaves (Holding Fields.Cleanable) (Holding Fields.Within) (normalForms env)
      fun _ => True :=
    ((leaves_cleaning _ _ sound_normal).starting fun _ h => h.mono fun _ hv =>
      ⟨hv.within, hv.normal⟩).ending fun _ h => h.mono fun _ hv => hv.1
  refine (leaves_cleaning _ _ haddress).then hout fun _ _ => ?_
  refine (leaves_cleaning _ _ hempty).then hout fun _ _ => ?_
  refine leaves_duplicates.then hout fun _ _ => ?_
  exact hnormal.bind fun _ _ => leaves_pure trivial

/-- What a cleanup makes of the contacts is within the limits, as far as it can be beyond them. -/
def Kind.Moderate (t : Tables) : Kind → Prop
  | emptyFields => ∀ c ∈ t.contacts, c.fields.filled.Within
  | general => ∀ c ∈ t.contacts, c.fields.filled.Within ∧ c.fields.normal.Within
  | addresses | duplicates => True

instance (t : Tables) : (kind : Kind) → Decidable (kind.Moderate t)
  | .emptyFields => inferInstanceAs (Decidable (∀ c ∈ t.contacts, _))
  | .general => inferInstanceAs (Decidable (∀ c ∈ t.contacts, _))
  | .addresses | .duplicates => isTrue trivial

theorem leaves_run (kind : Kind) : Leaves (fun t => Holding Fields.Within t ∧ kind.Moderate t)
    (Holding Fields.Within) (run env kind) fun _ => True := by
  cases kind with
  | addresses => exact (leaves_cleaning _ _ sound_address).starting fun _ h => h.1
  | duplicates => exact leaves_duplicates.starting fun _ h => h.1
  | emptyFields =>
    refine ((leaves_cleaning _ _ sound_empty).starting ?_).ending ?_
    · exact fun t h => ⟨fun c hc => ⟨h.1.contacts c hc, h.2 c hc⟩, h.1.snapshots⟩
    · exact fun t h => h.mono fun _ hv => hv.1
  | general =>
    refine leaves_general.starting fun t h => ⟨fun c hc => ?_, h.1.snapshots⟩
    exact ⟨h.1.contacts c hc, (h.2 c hc).1, (h.2 c hc).2⟩

end Cleanup

/-! ### Runs -/

namespace Operation

/-- The values that an operation gives to a contact are read from a request. -/
def Offered : Operation → Prop
  | createContact fields => ∃ m, Schema.newContact m = .ok fields
  | updateContact _ changes => ∃ m, Schema.contactChanges m = .ok changes
  | _ => True

/-- The values that an operation imports. -/
def imported : Operation → List Fields
  | importCsv _ content _ => Csv.rows content
  | _ => []

/-- The cleanup that an operation is, if it is one. -/
def cleanup? : Operation → Option Cleanup.Kind
  | cleanup label => Cleanup.Kind.ofLabel? label
  | _ => none

/-- Nothing that an operation imports, and nothing that it makes up, is beyond the limits. -/
structure Moderate (t : Tables) (op : Operation) : Prop where
  imported : ∀ row ∈ op.imported, row.Within
  cleanup : ∀ kind ∈ op.cleanup?, kind.Moderate t

instance (t : Tables) (op : Operation) : Decidable (op.Moderate t) :=
  decidable_of_iff ((∀ row ∈ op.imported, row.Within) ∧ ∀ kind ∈ op.cleanup?, kind.Moderate t)
    ⟨fun h => ⟨h.1, h.2⟩, fun h => ⟨h.imported, h.cleanup⟩⟩

end Operation

namespace Store

/-- Every step of a run is moderate when its turn comes. -/
def Moderate (s : Store) : List Step → Prop
  | [] => True
  | x :: rest => x.operation.Moderate s.tables ∧ (s.next x).Moderate rest

instance decidableModerate (s : Store) : (steps : List Step) → Decidable (s.Moderate steps)
  | [] => isTrue trivial
  | x :: rest =>
    have := decidableModerate (s.next x) rest
    inferInstanceAs (Decidable (x.operation.Moderate s.tables ∧ (s.next x).Moderate rest))

end Store

theorem leaves_clean (label : Text) :
    Leaves (fun t => Holding Fields.Within t ∧ (Operation.cleanup label).Moderate t)
      (Holding Fields.Within) (Operation.clean env label) fun _ => True := by
  unfold Operation.clean
  cases hk : Cleanup.Kind.ofLabel? label with
  | none => exact fun _ hs => hs.1
  | some kind =>
    refine ((Cleanup.leaves_run kind).starting ?_).bind fun _ _ => leaves_pure trivial
    exact fun t h => ⟨h.1, h.2.cleanup kind hk⟩

theorem leaves_operation (op : Operation) (ho : op.Offered) :
    Leaves (fun t => Holding Fields.Within t ∧ op.Moderate t) (Holding Fields.Within) (op.run env)
      fun _ => True := by
  have hfirst : ∀ t, Holding Fields.Within t ∧ op.Moderate t → Holding Fields.Within t :=
    fun _ h => h.1
  have hkeeps : ∀ op : Operation, op.adds = false → op.rewrites = false →
      Leaves (Holding Fields.Within) (Holding Fields.Within) (op.run env) fun _ => True :=
    fun op ha hw => (keeps_elsewhere op ha hw).leaves
  cases op with
  | createContact fields =>
    obtain ⟨m, hm⟩ := ho
    exact ((leaves_create none (Schema.within_of_newContact hm)).starting hfirst).bind
      fun _ _ => leaves_pure trivial
  | updateContact id changes =>
    obtain ⟨m, hm⟩ := ho
    refine ((leaves_get id).starting hfirst).bind fun c hc => ?_
    have hvalues := hc.apply fun f x hx => Schema.admits_of_contactChanges hm hx
    exact (leaves_record hc hvalues).bind fun _ _ => leaves_pure trivial
  | deleteContact id | reactivateContact id =>
    exact ((leaves_setActive id _).starting hfirst).bind fun _ _ => leaves_pure trivial
  | restoreVersion id version =>
    exact ((leaves_restore id version).starting hfirst).bind fun _ _ => leaves_pure trivial
  | restoreAll time =>
    exact ((leaves_restoreAll time).starting hfirst).bind fun _ _ => leaves_pure trivial
  | importCsv filename content size =>
    intro s hs
    have himport : Leaves _ _ (Operation.importBytes env filename content size) _ :=
      leaves_import filename content size hs.2.imported
    exact (himport.bind fun _ _ => leaves_pure trivial) s hs.1
  | cleanup label =>
    exact leaves_clean label
  | _ => exact Leaves.starting (hkeeps _ rfl rfl) hfirst

theorem holding_next (x : Step) (h : Holding Fields.Within s.tables) (ho : x.operation.Offered)
    (hm : x.operation.Moderate s.tables) : Holding Fields.Within (s.next x).tables :=
  ((leaves_operation x.operation ho).transaction fun _ h => h.1).after ⟨h, hm⟩

theorem holding_run {steps : List Step} (h : Holding Fields.Within s.tables)
    (ho : ∀ x ∈ steps, x.operation.Offered) (hm : s.Moderate steps) :
    Holding Fields.Within (s.run steps).tables := by
  induction steps generalizing s with
  | nil => exact h
  | cons x rest ih =>
    have hnext := holding_next x h (ho x (List.mem_cons_self ..)) hm.1
    exact ih hnext (fun y hy => ho y (List.mem_cons_of_mem _ hy)) hm.2

/-- Names, e-mail addresses and telephone numbers keep within their limits in every contact and
every snapshot, as long as no import brings longer ones and no cleanup makes them up. -/
theorem limits_hold {steps : List Step} (ho : ∀ x ∈ steps, x.operation.Offered)
    (hm : Store.Moderate {} steps) : Holding Fields.Within (Store.run {} steps).tables :=
  holding_run ⟨by simp, by simp⟩ ho hm

/-- Contacts are created and imported, and what is missing of them is filled. -/
def filledOnce : List Step :=
  [⟨.fair 1, .createContact { name := some ['a'] }⟩,
    ⟨.fair 2, .importCsv ['f'] [110, 97, 109, 101, 10, 98, 10] 100⟩,
    ⟨.fair 3, .cleanup (Text.ofString "empty-fields")⟩]

theorem limits_hold_filledOnce : (∀ x ∈ filledOnce, x.operation.Offered) ∧
    Store.Moderate {} filledOnce ∧ Holding Fields.Within (Store.run {} filledOnce).tables := by
  have hnew : Schema.newContact [(Text.ofString "name", .text ['a'])] =
      .ok { name := some ['a'] } := by rfl
  have ho : ∀ x ∈ filledOnce, x.operation.Offered :=
    List.forall_mem_cons.2 ⟨⟨_, hnew⟩, List.forall_mem_cons.2 ⟨trivial,
      List.forall_mem_singleton.2 trivial⟩⟩
  have hm : Store.Moderate {} filledOnce := by decide +kernel
  exact ⟨ho, hm, limits_hold ho hm⟩

/-- A document with a name that is too long. -/
def longImport : List Step :=
  [⟨.fair 1, .importCsv ['f'] ([110, 97, 109, 101, 10] ++ List.replicate 256 97) 100⟩]

/-- A name of any length is imported. -/
theorem limits_exceeded_longImport : ¬ ∀ steps : List Step,
    (∀ x ∈ steps, x.operation.Offered) → Holding Fields.Within (Store.run {} steps).tables := by
  intro h
  have hwithin := (h longImport (List.forall_mem_singleton.2 trivial)).contacts
  exact absurd hwithin (by decide +kernel)

end AddressBook
