import AddressBook.Proofs.Service.Rewriting

/-!
Operations that are not about groups leave groups and memberships as they are, and no contact ever
goes.
-/
namespace AddressBook

open AddressBook.Action

variable {env : Conditions} {s s' : Store}

/-- Groups and memberships are the same, and contacts have only been added. -/
structure Grown (s s' : Store) : Prop extends Grouped s s' where
  ids : s.tables.contacts.map (·.id) <+: s'.tables.contacts.map (·.id)

theorem Grown.of_ids (h : Grouped s s')
    (hids : s'.tables.contacts.map (·.id) = s.tables.contacts.map (·.id)) : Grown s s' :=
  ⟨h, hids ▸ List.prefix_refl _⟩

instance : DisplayFree Grown where
  unwritten h := .of_ids ⟨by rw [h.tables], by rw [h.tables], h.issued⟩ (by rw [h.tables])
  trans h h' := ⟨⟨h'.groups.trans h.groups, h'.members.trans h.members,
    Issued.le_trans h.issued h'.issued⟩, h.ids.trans h'.ids⟩
  back h := ⟨⟨rfl, rfl, h.issued⟩, List.prefix_refl _⟩
  beside h := .of_ids h.toGrouped (by rw [h.contacts])

instance : ValueFree Grown where
  rewritten h := .of_ids h.toGrouped h.ids

/-! ### Additions -/

theorem grown_create (fields : Fields) (upload : Option Uuid) :
    Keeps Grown (Contacts.create env fields upload) := by
  refine (keeps_attempt _).bind fun _ => keeps_newContactId.bind fun id => ?_
  refine (bindInstant_checks _).keeps.bind fun _ => (bindTexts_checks _).keeps.bind fun _ => ?_
  refine (bindInteger_checks _).keeps.bind fun _ => Keeps.bind ?_ fun _ => keeps_pure _
  intro s
  refine ⟨⟨rfl, rfl, Issued.le_refl _⟩, ?_⟩
  show _ <+: (s.tables.contacts ++ [_]).map _
  rw [List.map_append]
  exact List.prefix_append _ _

/-- A change of uploads. -/
theorem grown_change (f : Tables → List Upload) :
    Keeps Grown (change fun t => { t with uploads := f t }) :=
  fun _ => .of_ids ⟨rfl, rfl, Issued.le_refl _⟩ rfl

theorem grown_createUpload (filename : Text) (total : Int) :
    Keeps Grown (Uploads.create env filename total) :=
  (keeps_attempt _).bind fun _ => keeps_newUploadId.bind fun _ =>
    (grown_change _).bind fun _ => keeps_pure _

theorem grown_setProgress (u : Upload) (processed : Int) (status : Option UploadStatus) :
    Keeps Grown (Uploads.setProgress env u processed status) := by
  refine (keeps_report _).bind fun _ => Keeps.ite (keeps_pure _) ?_
  refine (keeps_attempt _).bind fun _ => Keeps.bind ?_ fun _ => keeps_pure _
  exact grown_change fun t => (t.setUpload _).uploads

theorem grown_insertRows (upload : Uuid) (rows : List Fields) :
    Keeps Grown (Csv.insertRows env upload rows) := by
  induction rows with
  | nil => exact keeps_pure _
  | cons row rest ih => exact (grown_create row _).bind fun _ => ih

theorem grown_insertBatches (u : Upload) (done : Int) (batches : List (List Fields)) :
    Keeps Grown (Csv.insertBatches env u done batches) := by
  induction batches generalizing u done with
  | nil => exact keeps_pure _
  | cons batch rest ih =>
    exact (grown_insertRows u.id batch).bind fun _ =>
      (grown_setProgress u _ none).bind fun u' => ih u' _

theorem grown_import (filename content : Text) (size : Int) :
    Keeps Grown (Csv.run env filename content size) := by
  refine (keeps_ofExcept _ _).bind fun rows => (grown_createUpload _ _).bind fun u =>
    keeps_reports.bind fun before => ?_
  have hall : Keeps Grown (Csv.insertAll env u size rows) :=
    Keeps.savepoint ((keeps_ofExcept _ _).bind fun parts => grown_insertBatches u 0 parts)
  refine hall.recover.bind fun r => ?_
  rcases r with e | ⟨u', done⟩
  · exact keeps_reports.bind fun _ => Keeps.ite (grown_setProgress _ _ _) (keeps_throw _)
  · exact grown_setProgress _ _ _

theorem grown_importBytes (filename : Text) (content : List UInt8) (size : Int) :
    Keeps Grown (Operation.importBytes env filename content size) := by
  unfold Operation.importBytes
  split
  · exact keeps_throw _
  · exact grown_import _ _ _

/-! ### Operations -/

theorem grown_run (op : Operation) (hop : op.regroups = false) : Keeps Grown (op.run env) := by
  cases op with
  | createContact fields => exact (grown_create fields none).map _
  | importCsv filename content size => exact (grown_importBytes filename content size).map _
  | _ => exact keeps_rewriting _ rfl hop

end AddressBook
