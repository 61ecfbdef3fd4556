import AddressBook.Sequence
import AddressBook.Store.Action

/-!
Stored uploads and their progress.
-/
namespace AddressBook.Uploads

open AddressBook.Action

variable (env : Conditions)

/-- A new upload, with no row processed yet. -/
def create (filename : Text) (total : Int) : Action Upload := do
  attempt env (.insertUpload filename)
  let u : Upload := ⟨← newUploadId, filename, total, 0, .processing, env.now, env.now⟩
  change fun t => { t with uploads := t.uploads ++ [u] }
  return u

/-- The progress of an upload, and its status if that changes too. Nothing is written if the row
says so already. -/
def setProgress (u : Upload) (processed : Int) (status : Option UploadStatus) : Action Upload := do
  report ⟨processed, status⟩
  let u' := { u with processed, status := status.getD u.status }
  if u' = u then return u
  attempt env (.updateUpload u.id)
  let u' := { u' with updated := env.now }
  change (·.setUpload u')
  return u'

/-- The last uploads, latest first. -/
def recent (count : Nat) : Action (List Upload) := do
  return (sortList (fun a b => b.created ≤ a.created) (← tables).uploads).take count

end AddressBook.Uploads
