import UploadGate.Http.Router
import UploadGate.Settings.EnvFile
import UploadGate.Proofs.Form.Typing
import UploadGate.Proofs.Form.Widening
import UploadGate.Proofs.Permissions.Inclusion
import UploadGate.Proofs.Permissions.Grants
import UploadGate.Proofs.Permissions.Target
import UploadGate.Proofs.Service.Offer
import UploadGate.Proofs.Service.Closure
import UploadGate.Proofs.Service.Dependence
import UploadGate.Proofs.Service.Monotonicity
import UploadGate.Proofs.Service.Selection
import UploadGate.Proofs.Http.Paths
import UploadGate.Proofs.Http.Authentication
import UploadGate.Proofs.Http.Isolation
import UploadGate.Proofs.Form.Problems
import UploadGate.Proofs.ErrorPaths
import UploadGate.Proofs.Listing
import UploadGate.Proofs.Form.Shape
import UploadGate.Proofs.Http.Priority
import UploadGate.Proofs.Settings.DeadExtensions
import UploadGate.Proofs.Settings.EnvFile
import UploadGate.Proofs.Form.Locality
import UploadGate.Proofs.Form.Defaults
import UploadGate.Proofs.Json.Printing
import UploadGate.Proofs.Json.Reading
import UploadGate.Proofs.Reply.Timestamp
import UploadGate.Proofs.Permissions.Writing
import UploadGate.Proofs.Permissions.Agreement
import UploadGate.Proofs.Settings.Loading
import UploadGate.Proofs.Settings.NormalForm
import UploadGate.Proofs.Settings.Environment
import UploadGate.Proofs.Form.Omission
import UploadGate.Proofs.Service.Schema
import UploadGate.Proofs.Connection.Extra
import UploadGate.Proofs.Connection.Writing
import UploadGate.Proofs.Reply.RoundTrip
import UploadGate.Proofs.Form.CommaList
