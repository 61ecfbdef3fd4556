import AddressBook.Http.Respond
import AddressBook.Http.Target
import AddressBook.Search.Statement
import AddressBook.Search.Trial
import AddressBook.Json.Writer
import AddressBook.Store.Faults
import AddressBook.Cleanup.Routine
import AddressBook.Failure.Description
import AddressBook.Json.Same
import AddressBook.Schema.Answers
import AddressBook.Proofs.History.Versions
import AddressBook.Proofs.History.Values
import AddressBook.Proofs.History.PointInTime
import AddressBook.Proofs.Search.Shapes
import AddressBook.Proofs.Search.Finding
import AddressBook.Proofs.History.Isolation
import AddressBook.Proofs.History.Timeline
import AddressBook.Proofs.History.Repeating
import AddressBook.Proofs.Http.Atomicity
import AddressBook.Proofs.Service.Unseen
import AddressBook.Proofs.Service.Uploads
import AddressBook.Proofs.Search.Paging
import AddressBook.Proofs.Csv.RoundTrip
import AddressBook.Proofs.Cleanup.Repeating
import AddressBook.Proofs.Cleanup.Merging
import AddressBook.Proofs.Service.Overlay
import AddressBook.Proofs.Service.Limits
import AddressBook.Proofs.Http.Statuses
import AddressBook.Proofs.Http.Updating
import AddressBook.Proofs.Search.Tokens
import AddressBook.Proofs.Search.Quoting
import AddressBook.Proofs.Search.Everything
import AddressBook.Proofs.Search.Literal
import AddressBook.Proofs.Search.CaseBlind
import AddressBook.Proofs.Search.Complement
import AddressBook.Proofs.Search.Rendering
import AddressBook.Proofs.Csv.Batching
import AddressBook.Proofs.Csv.Interruption
import AddressBook.Proofs.Csv.Mapping
import AddressBook.Proofs.Cleanup.Survivors
import AddressBook.Proofs.Cleanup.Tidying
import AddressBook.Proofs.Cleanup.Isolation
import AddressBook.Proofs.Http.Affected
import AddressBook.Proofs.Http.PageSizes
import AddressBook.Proofs.Search.Matching
import AddressBook.Proofs.Cleanup.Lines
import AddressBook.Proofs.Cleanup.Canonical
import AddressBook.Proofs.Search.Trial
