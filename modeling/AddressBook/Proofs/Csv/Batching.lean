import AddressBook.Proofs.Csv.Entering

/-!
The size of the batches of an import leaves no trace in the tables. If no write fails, all rows of
the document come in, in their order, and the upload says so, whatever the size was.
-/
namespace AddressBook.Csv

open AddressBook.Action

variable {env : Conditions} {base s : Store} {filename content : Text} {total done size size' : Int}
  {rows : List Fields} {bs : List (List Fields)}

/-! ### The batches -/

theorem insertBatches_of_calm (hn : Unused base) (hcalm : env.Calm) (hd : env.now.isDated)
    (hfits : ∀ row ∈ bs.flatten, env.Fits row.values)
    (hs : Reached base (newUpload base filename env.now total done .processing) env.now rows s)
    (hi : s.issued.contacts = base.issued.contacts + rows.length) :
    ∃ s', insertBatches env (newUpload base filename env.now total done .processing) done bs s =
        .ok (newUpload base filename env.now total (done + bs.flatten.length) .processing,
          done + bs.flatten.length) s' ∧
      Reached base (newUpload base filename env.now total (done + bs.flatten.length) .processing)
        env.now (rows ++ bs.flatten) s' := by
  induction bs generalizing s done rows with
  | nil =>
    have hdone : done + (([] : List (List Fields)).flatten.length : Int) = done := Int.add_zero done
    rw [hdone, List.flatten_nil, List.append_nil]
    exact ⟨s, rfl, hs⟩
  | cons batch rest ih =>
    rw [List.flatten_cons, List.forall_mem_append] at hfits
    have hrows := insertRows_of_takesAll (newUpload base filename env.now total done .processing).id
      (hcalm.takesAll hd hfits.1 s.tried)
    obtain ⟨s₁, hprogress, hs₁, hi₁, -⟩ := setProgress_of_unrefused hn
      (reached_entered hs hi batch) (hcalm _ _) (done + batch.length) none
    have hissued : s₁.issued.contacts = base.issued.contacts + (rows ++ batch).length := by
      rw [hi₁, List.length_append, ← Nat.add_assoc, ← hi]
      rfl
    obtain ⟨s', hrest, hs'⟩ := ih hfits.2 hs₁ hissued
    have hcount : done + (batch ++ rest.flatten).length =
        done + batch.length + rest.flatten.length := by
      rw [List.length_append]
      omega
    rw [List.flatten_cons, hcount, ← List.append_assoc]
    refine ⟨s', ?_, hs'⟩
    exact (bind_of_ok hrows).trans ((bind_of_ok hprogress).trans hrest)

theorem batches_of_pos (hsize : 1 ≤ size) (rows : List Fields) :
    ∃ bs, batches size rows = .ok bs ∧ bs.flatten = rows := by
  have hzero : ¬ size = 0 := by omega
  have hneg : ¬ size < 0 := by omega
  refine ⟨parts size.toNat rows.length rows, ?_, parts_flatten (by omega) (Nat.le_refl _)⟩
  simp [batches, hzero, hneg]

/-! ### The whole import -/

/-- An import of any positive batch size takes all rows in, if the store takes every value and
refuses no write. -/
theorem run_of_calm (filename : Text) (hn : Unused s) (hcalm : env.Calm) (hd : env.now.isDated)
    (hparsed : contacts content = .ok rows) (hfits : ∀ row ∈ rows, env.Fits row.values)
    (hsize : 1 ≤ size) :
    ∃ s', transaction env (run env filename content size) s =
        .ok (newUpload s filename env.now rows.length rows.length .completed) s' ∧
      Reached s (newUpload s filename env.now rows.length rows.length .completed) env.now rows
        s' := by
  obtain ⟨bs, hparts, hflatten⟩ := batches_of_pos hsize rows
  obtain ⟨s₁, hcreate, hs₁, hi₁, -⟩ :=
    createUpload_of_unrefused rows.length (hcalm s.tried (.insertUpload filename))
  obtain ⟨s₂, hinsert, hs₂⟩ := insertBatches_of_calm hn hcalm hd (hflatten.symm ▸ hfits) hs₁ hi₁
  rw [hflatten, Int.zero_add] at hinsert hs₂
  obtain ⟨s₃, hfinish, hs₃, -⟩ :=
    setProgress_of_unrefused hn hs₂ (hcalm _ _) rows.length (some .completed)
  have hall : insertAll env (newUpload s filename env.now rows.length 0 .processing) size rows s₁ =
      .ok (newUpload s filename env.now rows.length rows.length .processing, rows.length) s₂ := by
    apply savepoint_of_ok
    rw [hparts]
    exact hinsert
  have hrun : run env filename content size s =
      .ok (newUpload s filename env.now rows.length rows.length .completed) s₃ := by
    unfold run
    rw [hparsed]
    exact (bind_of_ok hcreate).trans ((bind_of_ok (recover_of_ok hall)).trans hfinish)
  exact ⟨_, transaction_of_ok hrun (hcalm _ _), ⟨hs₃.tables, hs₃.journal⟩⟩

/-- Imports in batches of any two sizes come to the same. -/
theorem run_sizes_agree (filename : Text) (hn : Unused s) (hcalm : env.Calm) (hd : env.now.isDated)
    (hparsed : contacts content = .ok rows) (hfits : ∀ row ∈ rows, env.Fits row.values)
    (hsize : 1 ≤ size) (hsize' : 1 ≤ size') :
    ∃ t t', transaction env (run env filename content size) s =
        .ok (newUpload s filename env.now rows.length rows.length .completed) t ∧
      transaction env (run env filename content size') s =
        .ok (newUpload s filename env.now rows.length rows.length .completed) t' ∧
      t.tables = imported s (newUpload s filename env.now rows.length rows.length .completed)
        env.now rows ∧
      t'.tables = t.tables ∧ t.journal = s.journal ∧ t'.journal = s.journal := by
  obtain ⟨t, hrun, ht⟩ := run_of_calm filename hn hcalm hd hparsed hfits hsize
  obtain ⟨t', hrun', ht'⟩ := run_of_calm filename hn hcalm hd hparsed hfits hsize'
  exact ⟨t, t', hrun, hrun', ht.tables, ht'.tables.trans ht.tables.symm, ht.journal, ht'.journal⟩

/-- A document of two contacts, of which one has a name and the other a telephone number. -/
def twoContacts : Text := Text.ofString "name,phone\na,\n,1\n"

theorem contacts_twoContacts :
    contacts twoContacts = .ok [{ name := some ['a'] }, { phone := some ['1'] }] := rfl

/-- Row by row, or both rows at once. -/
theorem run_sizes_agree_twoContacts : ∃ t t' u,
    transaction (.fair 1) (run (.fair 1) ['f'] twoContacts 1) {} = .ok u t ∧
      transaction (.fair 1) (run (.fair 1) ['f'] twoContacts 5) {} = .ok u t' ∧
      u.status = .completed ∧ t.tables.contacts.length = 2 ∧ t'.tables = t.tables := by
  obtain ⟨t, t', hrun, hrun', ht, ht', -⟩ := run_sizes_agree (s := {}) ['f'] nofun
    (Conditions.calm_fair 1) (by decide) contacts_twoContacts (fun _ _ _ _ => rfl)
    (by decide : (1 : Int) ≤ 1) (by decide : (1 : Int) ≤ 5)
  exact ⟨t, t', _, hrun, hrun', rfl, by rw [ht]; rfl, ht'⟩

end AddressBook.Csv
