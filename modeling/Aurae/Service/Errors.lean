import Aurae.Cells.Cell

/-!
# Errors and statuses of the cell service

What a request can fail with, and the `tonic::Status` each failure reaches the caller
as. `error.rs`, the `aurae_client` crate, the `validation` crate and the executables
module are not among the sources; their error types follow the spec's taxonomy (§7) and
the status codes of its interface table (§6). Neither gives the text of a converted
status, so such a status carries the error it was converted from (`Message.converted`),
not a text. The one message the code reads is tonic's `"transport error"`
(`Status.isTransportError`).
-/

namespace Aurae

/-- `tonic::Code`, the codes the service answers with. -/
inductive Code where
  | ok
  | unknown
  | invalidArgument
  | notFound
  | alreadyExists
  | failedPrecondition
  | internal
  | unavailable
  deriving DecidableEq

/-- Modelled from the spec: `AuraeClientError`. Only a `ConnectionError` is retried while
dialling. -/
inductive AuraeClientError where
  | connectionError (reason : String)
  | other (reason : String)
  deriving DecidableEq

/-- Modelled from the spec: the errors of the executables supervisor. -/
inductive ExecutablesError where
  | executableExists (name : String)
  | executableNotFound (name : String)
  | executableSpawnFailed (name : String)
  deriving DecidableEq

/-- A field path: the field names from the request down (`validation::field_name`). -/
abbrev FieldPath := List String

/-- `validation::field_name(field_name, parent_name)`: the field under its parent. -/
def fieldName (field : String) (parent : FieldPath) : FieldPath := parent ++ [field]

/-- Modelled from the spec: `ValidationError` (`InvalidArgument{field, reason}`). -/
inductive ValidationError where
  | required (field : FieldPath)
  | invalid (field : FieldPath)
  deriving DecidableEq

/-- The field a validation error is about. -/
def ValidationError.field : ValidationError → FieldPath
  | .required field => field
  | .invalid field => field

/-- `CellsServiceError`, what the handlers convert into a status: the variants the
sources name (`CellsError`, `ExecutablesError`, `Io` in `start`, and the client's error
through `CellsServiceError::from`), and a failed validation. -/
inductive CellsServiceError where
  | cellsError (e : CellsError)
  | executablesError (e : ExecutablesError)
  | auraeClientError (e : AuraeClientError)
  | validationError (e : ValidationError)
  | io (reason : String)
  deriving DecidableEq

/-- What a status says besides its code: a text tonic wrote, or, for a status converted from
a `CellsServiceError` (`From<CellsServiceError> for Status`), the error it came from. -/
inductive Message where
  | text (s : String)
  | converted (e : CellsServiceError)
  deriving DecidableEq

/-- `tonic::Status`. -/
structure Status where
  code : Code
  message : Message
  deriving DecidableEq

namespace Status

/-- `e.code() == Code::Unknown && e.message() == "transport error"`. -/
def isTransportError (e : Status) : Bool :=
  e.code == .unknown && e.message == .text "transport error"

/-- What tonic reports when a call's connection fails under it, its response lost. -/
def transportError : Status := ⟨.unknown, .text "transport error"⟩

theorem isTransportError_transportError : transportError.isTransportError = true := rfl

end Status

/-- Modelled from the spec: the status code of each registry error. -/
def CellsError.code : CellsError → Code
  | .cellExists _ => .alreadyExists
  | .cellNotFound _ => .notFound
  | .cgroupNotFound _ => .notFound
  | .cellNotAllocated _ => .failedPrecondition
  | .cgroupIsNotACell _ => .failedPrecondition
  | .cgroupCreateFailed _ => .internal
  | .controllerWriteFailed _ _ => .internal
  | .isolationFailed _ _ => .internal

/-- Modelled from the spec: the status code of each error of the service. -/
def CellsServiceError.code : CellsServiceError → Code
  | .cellsError e => e.code
  | .executablesError (.executableExists _) => .alreadyExists
  | .executablesError (.executableNotFound _) => .notFound
  | .executablesError (.executableSpawnFailed _) => .internal
  | .auraeClientError _ => .unavailable
  | .validationError _ => .invalidArgument
  | .io _ => .internal

/-- Modelled from the spec: `From<CellsServiceError> for Status`, the error's code, the
error itself for the message. -/
def CellsServiceError.toStatus (e : CellsServiceError) : Status := ⟨e.code, .converted e⟩

/-- Modelled from the spec: a failed validation reaches the caller as `InvalidArgument`,
naming the field. -/
def ValidationError.toStatus (e : ValidationError) : Status :=
  (CellsServiceError.validationError e).toStatus

/-- No converted error is the transient transport error: only tonic's own status is
retried. -/
theorem CellsServiceError.isTransportError_toStatus (e : CellsServiceError) :
    e.toStatus.isTransportError = false := by
  simp [Status.isTransportError, toStatus]

end Aurae
