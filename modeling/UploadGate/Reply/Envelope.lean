import UploadGate.Json.Decode
import UploadGate.Json.Printer
import UploadGate.Reply.Timestamp
import UploadGate.ServiceError

/-! # The envelope of replies

Every reply has the same shape: whether it is a success, the data or the error, and what there is to
say about the reply itself. A part that is missing is left out in writing; in reading, null counts
as missing for the optional parts.
-/

namespace UploadGate

structure ReplyError where
  code : String
  message : String
  details : Option Json.Value

/-- What there is to say about a reply. -/
structure ReplyMeta where
  requestId : Option String := none
  timestamp : Option Timestamp := none
  service : Option String := none
deriving DecidableEq

structure Envelope (α : Type) where
  success : Bool
  data : Option α
  error : Option ReplyError
  about : ReplyMeta

namespace Envelope

variable {α : Type}

/-- A success with data. -/
def ok (data : α) : Envelope α := ⟨true, some data, none, {}⟩

def withRequestId (envelope : Envelope α) (id : String) : Envelope α :=
  { envelope with about.requestId := some id }

def withService (envelope : Envelope α) (name : String) : Envelope α :=
  { envelope with about.service := some name }

/-- A failure, with details if there are any. -/
def failure (code message : String) (details : Option Json.Value) : Envelope α :=
  ⟨false, none, some ⟨code, message, details⟩, {}⟩

/-- The failure that reports an error of the service. -/
def ofError (error : ServiceError) : Envelope α := failure error.code error.message error.details?

/-! ## Writing -/

def errorJson (error : ReplyError) : Json.Value :=
  .ofPresent
    [("code", some (.string error.code)), ("message", some (.string error.message)),
      ("details", error.details)]

def metaJson (about : ReplyMeta) : Json.Value :=
  .ofPresent
    [("request_id", about.requestId.map .string),
      ("timestamp", about.timestamp.map fun time => .string time.text),
      ("service", about.service.map .string)]

def toJson (write : α → Json.Value) (envelope : Envelope α) : Json.Value :=
  .ofPresent
    [("success", some (.bool envelope.success)), ("data", envelope.data.map write),
      ("error", envelope.error.map errorJson), ("meta", some (metaJson envelope.about))]

/-! ## Reading -/

open Json.Decode (string optional record)

structure ErrorDraft where
  code : Option String
  message : Option String
  details : Option Json.Value

/-- Inside an envelope and its error, two of the arrays and objects around each other are taken. -/
def detailsDecoder : Json.Decoder Json.Value := Json.Decode.value (Json.Decode.nestingLimit - 2)

def errorFields : Json.Decode.Fields ErrorDraft where
  names := ["code", "message", "details"]
  read
    | "code", scan, draft => do return { draft with code := some (← string scan) }
    | "message", scan, draft => do return { draft with message := some (← string scan) }
    | "details", scan, draft => do return { draft with details := ← optional detailsDecoder scan }
    | _, _, draft => .ok draft

def errorDecoder : Json.Decoder ReplyError :=
  record errorFields ⟨none, none, none⟩ fun draft => do
    return { code := ← draft.code, message := ← draft.message, details := draft.details }

def timestampDecoder : Json.Decoder Timestamp := fun scan => do
  match Timestamp.ofText? (← string scan) with
  | some time => .ok time
  | none => .error .mismatch

def metaFields : Json.Decode.Fields ReplyMeta where
  names := ["request_id", "timestamp", "service"]
  read
    | "request_id", scan, draft => do return { draft with requestId := ← optional string scan }
    | "timestamp", scan, draft => do
      return { draft with timestamp := some (← timestampDecoder scan) }
    | "service", scan, draft => do return { draft with service := ← optional string scan }
    | _, _, draft => .ok draft

def metaDecoder : Json.Decoder ReplyMeta := record metaFields {} some

structure Draft (α : Type) where
  success : Option Bool
  data : Option α
  error : Option ReplyError
  about : ReplyMeta

def fields (decodeData : Json.Decoder α) : Json.Decode.Fields (Draft α) where
  names := ["success", "data", "error", "meta"]
  read
    | "success", scan, draft => do
      return { draft with success := some (← Json.Decode.bool scan) }
    | "data", scan, draft => do return { draft with data := ← optional decodeData scan }
    | "error", scan, draft => do return { draft with error := ← optional errorDecoder scan }
    | "meta", scan, draft => do return { draft with about := ← metaDecoder scan }
    | _, _, draft => .ok draft

/-- Only the flag is required. -/
def decoder (decodeData : Json.Decoder α) : Json.Decoder (Envelope α) :=
  record (fields decodeData) ⟨none, none, none, {}⟩ fun draft => do
    return { success := ← draft.success, data := draft.data, error := draft.error,
             about := draft.about }

/-- Inside an envelope, one of the arrays and objects around each other is taken. -/
def anyDecoder : Json.Decoder (Envelope Json.Value) :=
  decoder (Json.Decode.value (Json.Decode.nestingLimit - 1))

end Envelope

end UploadGate
