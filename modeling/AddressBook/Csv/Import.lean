import AddressBook.Csv.Contacts
import AddressBook.Store.Contacts
import AddressBook.Store.Uploads

/-!
Import of a document of contacts. The contacts are inserted batch by batch under
one savepoint; the upload records how far the import has come, and stays behind
as failed if no batch could be finished.
-/
namespace AddressBook.Csv

open AddressBook.Action

variable (env : Conditions)

/-- A list cut into parts of `n` entries; `fuel` bounds the number of parts. -/
def parts {α : Type} (n : Nat) : Nat → List α → List (List α)
  | 0, _ => []
  | _, [] => []
  | fuel + 1, xs => xs.take n :: parts n fuel (xs.drop n)

/-- The batches of an import. A negative size gives none, and no size is an error. -/
def batches (size : Int) (rows : List Fields) : Except Failure (List (List Fields)) :=
  if size == 0 then .error .emptyBatch
  else if size < 0 then .ok []
  else .ok (parts size.toNat rows.length rows)

/-- Inserts the contacts of an upload. -/
def insertRows (upload : Uuid) : List Fields → Action Unit
  | [] => return
  | row :: rest => do
    let _ ← Contacts.create env row (some upload)
    insertRows upload rest

/-- Inserts the contacts of an upload batch by batch and records the progress. -/
def insertBatches (u : Upload) (done : Int) : List (List Fields) → Action (Upload × Int)
  | [] => return (u, done)
  | batch :: rest => do
    insertRows env u.id batch
    let done := done + batch.length
    let u ← Uploads.setProgress env u done none
    insertBatches u done rest

/-- Inserts all contacts of an upload, or none of them. -/
def insertAll (u : Upload) (size : Int) (rows : List Fields) : Action (Upload × Int) :=
  savepoint do
    insertBatches env u 0 (← ofExcept id (batches size rows))

/-- Imports a document. The upload row becomes stale when its progress is taken back. -/
def run (filename content : Text) (size : Int) : Action Upload := do
  let rows ← ofExcept Failure.ofImport (contacts content)
  let u ← Uploads.create env filename rows.length
  let before ← reports
  match ← recover (insertAll env u size rows) with
  | .ok (u, done) => Uploads.setProgress env u done (some .completed)
  | .error _ =>
    if (← reports) == before then Uploads.setProgress env u 0 (some .failed)
    else throw .stale

end AddressBook.Csv
