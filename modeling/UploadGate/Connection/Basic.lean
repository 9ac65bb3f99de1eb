import UploadGate.Engine
import UploadGate.Json.Decode
import UploadGate.Json.Printer

/-! # Database connections

A connection as administrators registered it: where uploads may go, if its flag allows them, and
the schemas to which they are restricted. No schema means no restriction. A choice is what a form
shows of a connection.
-/

namespace UploadGate

structure Connection where
  id : Int
  name : String
  engine : Engine
  allowsUpload : Bool
  schemas : NameSet
deriving DecidableEq

/-- An option of a form's database field. -/
structure Choice where
  id : Int
  label : String
deriving DecidableEq

namespace Choice

def toJson (choice : Choice) : Json.Value :=
  .ofMembers [("id", .integer choice.id), ("label", .string choice.label)]

structure Draft where
  id : Option Int
  label : Option String

def fields : Json.Decode.Fields Draft where
  names := ["id", "label"]
  read
    | "id", scan, draft => do return { draft with id := some (← Json.Decode.integer scan) }
    | "label", scan, draft => do return { draft with label := some (← Json.Decode.string scan) }
    | _, _, draft => .ok draft

def Draft.finish (draft : Draft) : Option Choice := do
  return { id := ← draft.id, label := ← draft.label }

def decoder : Json.Decoder Choice := Json.Decode.record fields ⟨none, none⟩ Draft.finish

end Choice

namespace Connection

def choice (connection : Connection) : Choice := ⟨connection.id, connection.name⟩

/-- Connections are written with their schemas in ascending order. -/
def toJson (connection : Connection) : Json.Value :=
  .ofMembers
    [("id", .integer connection.id),
      ("database_name", .string connection.name),
      ("engine", .string connection.engine.backend),
      ("allow_file_upload", .bool connection.allowsUpload),
      ("schemas_allowed_for_file_upload", .strings connection.schemas.toList)]

structure Draft where
  id : Option Int
  name : Option String
  engine : Option Engine
  allowsUpload : Option Bool
  schemas : NameSet

def fields : Json.Decode.Fields Draft where
  names := ["id", "database_name", "engine", "allow_file_upload", "schemas_allowed_for_file_upload"]
  read
    | "id", scan, draft => do return { draft with id := some (← Json.Decode.integer scan) }
    | "database_name", scan, draft => do
      return { draft with name := some (← Json.Decode.string scan) }
    | "engine", scan, draft => do
      return { draft with engine := some (.ofBackend (← Json.Decode.string scan)) }
    | "allow_file_upload", scan, draft => do
      return { draft with allowsUpload := some (← Json.Decode.bool scan) }
    | "schemas_allowed_for_file_upload", scan, draft => do
      return { draft with schemas := ← Json.Decode.names scan }
    | _, _, draft => .ok draft

def Draft.finish (draft : Draft) : Option Connection := do
  return {
    id := ← draft.id
    name := ← draft.name
    engine := ← draft.engine
    allowsUpload := ← draft.allowsUpload
    schemas := draft.schemas }

/-- All fields but the schemas are required. -/
def decoder : Json.Decoder Connection :=
  Json.Decode.record fields ⟨none, none, none, none, ∅⟩ Draft.finish

end Connection

end UploadGate
