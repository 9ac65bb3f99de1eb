import UploadGate.Connection.Basic

/-! # Permission snapshots

What one user may access, at the time of asking. Full access to a database comes from a flag for
all databases, a flag for all tables, or the database's name. Access to a schema of a database comes
from a grant for the schema, or from a grant for one of its tables whose schema is known.
-/

namespace UploadGate

structure SchemaGrant where
  database : String
  schema : String
deriving DecidableEq

structure TableGrant where
  database : String
  schema : Option String
  table : String
deriving DecidableEq

structure Permissions where
  username : String
  allDatabases : Bool
  /-- Access to every table, and so to every database. -/
  allTables : Bool
  databases : NameSet
  schemaGrants : List SchemaGrant
  tableGrants : List TableGrant
deriving DecidableEq

namespace Permissions

/-- The snapshot that grants nothing. -/
def none (username : String) : Permissions := ⟨username, false, false, ∅, [], []⟩

def hasFullAccess (permissions : Permissions) (connection : Connection) : Bool :=
  permissions.allTables || permissions.allDatabases ||
    decide (connection.name ∈ permissions.databases)

/-- The schemas of a database for which there is a grant. -/
def grantedSchemas (permissions : Permissions) (database : String) : List String :=
  (permissions.schemaGrants.filter (·.database = database)).map (·.schema) ++
    (permissions.tableGrants.filter (·.database = database)).filterMap (·.schema)

/-- Those of some schemas of a connection that the user may access. -/
def accessibleSchemas (permissions : Permissions) (connection : Connection) (schemas : NameSet) :
    NameSet :=
  if permissions.hasFullAccess connection then schemas
  else .ofList ((permissions.grantedSchemas connection.name).filter (· ∈ schemas))

/-! ## Text form -/

def schemaGrantJson (grant : SchemaGrant) : Json.Value :=
  .ofMembers [("database", .string grant.database), ("schema", .string grant.schema)]

def tableGrantJson (grant : TableGrant) : Json.Value :=
  .ofMembers
    [("database", .string grant.database), ("schema", .ofOption .string grant.schema),
      ("table", .string grant.table)]

def toJson (permissions : Permissions) : Json.Value :=
  .ofMembers
    [("username", .string permissions.username),
      ("all_database_access", .bool permissions.allDatabases),
      ("all_datasource_access", .bool permissions.allTables),
      ("database_access", .strings permissions.databases.toList),
      ("schema_access", .array (permissions.schemaGrants.map schemaGrantJson)),
      ("datasource_access", .array (permissions.tableGrants.map tableGrantJson))]

structure SchemaGrantDraft where
  database : Option String
  schema : Option String

def schemaGrantFields : Json.Decode.Fields SchemaGrantDraft where
  names := ["database", "schema"]
  read
    | "database", scan, draft => do
      return { draft with database := some (← Json.Decode.string scan) }
    | "schema", scan, draft => do return { draft with schema := some (← Json.Decode.string scan) }
    | _, _, draft => .ok draft

def schemaGrantDecoder : Json.Decoder SchemaGrant :=
  Json.Decode.record schemaGrantFields ⟨.none, .none⟩ fun draft => do
    return { database := ← draft.database, schema := ← draft.schema }

structure TableGrantDraft where
  database : Option String
  schema : Option String
  table : Option String

def tableGrantFields : Json.Decode.Fields TableGrantDraft where
  names := ["database", "schema", "table"]
  read
    | "database", scan, draft => do
      return { draft with database := some (← Json.Decode.string scan) }
    | "schema", scan, draft => do
      return { draft with schema := ← Json.Decode.optional Json.Decode.string scan }
    | "table", scan, draft => do return { draft with table := some (← Json.Decode.string scan) }
    | _, _, draft => .ok draft

def tableGrantDecoder : Json.Decoder TableGrant :=
  Json.Decode.record tableGrantFields ⟨.none, .none, .none⟩ fun draft => do
    return { database := ← draft.database, schema := draft.schema, table := ← draft.table }

def fields : Json.Decode.Fields Permissions where
  names := ["username", "all_database_access", "all_datasource_access", "database_access",
    "schema_access", "datasource_access"]
  read
    | "username", scan, draft => do return { draft with username := ← Json.Decode.string scan }
    | "all_database_access", scan, draft => do
      return { draft with allDatabases := ← Json.Decode.bool scan }
    | "all_datasource_access", scan, draft => do
      return { draft with allTables := ← Json.Decode.bool scan }
    | "database_access", scan, draft => do
      return { draft with databases := ← Json.Decode.names scan }
    | "schema_access", scan, draft => do
      return { draft with schemaGrants := ← Json.Decode.list schemaGrantDecoder scan }
    | "datasource_access", scan, draft => do
      return { draft with tableGrants := ← Json.Decode.list tableGrantDecoder scan }
    | _, _, draft => .ok draft

/-- A field that is missing grants nothing. -/
def decoder : Json.Decoder Permissions := Json.Decode.record fields (none "") some

end Permissions

end UploadGate
