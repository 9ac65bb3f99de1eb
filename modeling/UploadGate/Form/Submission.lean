import UploadGate.Json.Decode
import UploadGate.Json.Printer

/-! # Submissions

What a user sends for a form: the raw texts of the fields by name, and the names of the uploaded
files, each bound to a file field. Other field names than those of the form do no harm.
-/

namespace UploadGate.Form

structure UploadedFile where
  /-- The name of the file field. -/
  field : String
  filename : String
deriving DecidableEq

structure Submission where
  fields : NameTable String
  files : List UploadedFile
deriving DecidableEq

namespace UploadedFile

def toJson (file : UploadedFile) : Json.Value :=
  .ofMembers [("field", .string file.field), ("filename", .string file.filename)]

structure Draft where
  field : Option String
  filename : Option String

def fields : Json.Decode.Fields Draft where
  names := ["field", "filename"]
  read
    | "field", scan, draft => do return { draft with field := some (← Json.Decode.string scan) }
    | "filename", scan, draft => do
      return { draft with filename := some (← Json.Decode.string scan) }
    | _, _, draft => .ok draft

def decoder : Json.Decoder UploadedFile :=
  Json.Decode.record fields ⟨none, none⟩ fun draft => do
    return { field := ← draft.field, filename := ← draft.filename }

end UploadedFile

namespace Submission

def empty : Submission := ⟨∅, []⟩

instance : EmptyCollection Submission := ⟨empty⟩

/-- The names of the files bound to a field, in their order. -/
def filesFor (submission : Submission) (field : String) : List String :=
  (submission.files.filter (·.field = field)).map (·.filename)

def toJson (submission : Submission) : Json.Value :=
  .ofMembers
    [("fields", .ofTable (submission.fields.map .string)),
      ("files", .array (submission.files.map UploadedFile.toJson))]

def jsonFields : Json.Decode.Fields Submission where
  names := ["fields", "files"]
  read
    | "fields", scan, draft => do
      return { draft with fields := ← Json.Decode.table Json.Decode.string scan }
    | "files", scan, draft => do
      return { draft with files := ← Json.Decode.list UploadedFile.decoder scan }
    | _, _, draft => .ok draft

/-- Both parts may be left out. -/
def decoder : Json.Decoder Submission := Json.Decode.record jsonFields ∅ some

end Submission

end UploadGate.Form
