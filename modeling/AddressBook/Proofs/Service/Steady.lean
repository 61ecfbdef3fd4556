import AddressBook.Proofs.Service.Rewriting

/-!
Only creations and imports add anything: all other operations leave the uploads as they are, and
the contacts too, up to their values.
-/
namespace AddressBook

open AddressBook.Action

variable {env : Conditions}

/-- The uploads are the same, and so are the contacts, up to their values. -/
structure Steady (s s' : Store) : Prop where
  uploads : s'.tables.uploads = s.tables.uploads
  ids : s'.tables.contacts.map (·.id) = s.tables.contacts.map (·.id)

instance : GroupFree Steady where
  elsewhere h := ⟨h.uploads, by rw [h.contacts]⟩
  trans h h' := ⟨h'.uploads.trans h.uploads, h'.ids.trans h.ids⟩
  back _ := ⟨rfl, rfl⟩

instance : ValueFree Steady where
  rewritten h := ⟨h.uploads, h.ids⟩

theorem steady_run (op : Operation) (hop : op.adds = false) : Keeps Steady (op.run env) := by
  cases hw : op.rewrites with
  | true => exact keeps_rewriting op hop (by cases op <;> first | rfl | cases hw)
  | false => exact keeps_elsewhere op hop hw

end AddressBook
