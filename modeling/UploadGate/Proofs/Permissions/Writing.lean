import UploadGate.Permissions.File
import UploadGate.Proofs.Json.Reading

/-! # Written permissions

The JSON that snapshots of permissions are written as: objects whose members may come in any order,
with every field there and null for a schema that is not known. The decoder reads the snapshots back
from it as they were.
-/

namespace UploadGate

open Json.Decode (Reads Fills fills_of_reads reads_bool reads_list reads_names
  reads_optional_string reads_record reads_string)

def SchemaGrant.IsWrittenAs (grant : SchemaGrant) (value : Json.Value) : Prop :=
  value.IsObjectOf [("database", .string grant.database), ("schema", .string grant.schema)]

def TableGrant.IsWrittenAs (grant : TableGrant) (value : Json.Value) : Prop :=
  value.IsObjectOf
    [("database", .string grant.database), ("schema", .ofOption .string grant.schema),
      ("table", .string grant.table)]

/-- The databases are listed in ascending order, and the grants in their own. -/
def Permissions.IsWrittenAs (permissions : Permissions) (value : Json.Value) : Prop :=
  ∃ schemaGrants tableGrants,
    List.Forall₂ SchemaGrant.IsWrittenAs permissions.schemaGrants schemaGrants ∧
    List.Forall₂ TableGrant.IsWrittenAs permissions.tableGrants tableGrants ∧
    value.IsObjectOf
      [("username", .string permissions.username),
        ("all_database_access", .bool permissions.allDatabases),
        ("all_datasource_access", .bool permissions.allTables),
        ("database_access", .strings permissions.databases.toList),
        ("schema_access", .array schemaGrants), ("datasource_access", .array tableGrants)]

namespace Permissions

variable {value : Json.Value}

/-! ## Reading -/

theorem reads_schemaGrant {grant : SchemaGrant} (h : grant.IsWrittenAs value) :
    Reads schemaGrantDecoder value grant := by
  have hdatabase : Fills schemaGrantFields ("database", .string grant.database) _ :=
    fills_of_reads (fun found draft => { draft with database := some found }) (reads_string _)
      (by decide) fun _ _ => rfl
  have hschema : Fills schemaGrantFields ("schema", .string grant.schema) _ :=
    fills_of_reads (fun found draft => { draft with schema := some found }) (reads_string _)
      (by decide) fun _ _ => rfl
  apply reads_record h (.cons hdatabase (.cons hschema .nil))
  · simp
  · simp
  · rfl

theorem reads_tableGrant {grant : TableGrant} (h : grant.IsWrittenAs value) :
    Reads tableGrantDecoder value grant := by
  have hdatabase : Fills tableGrantFields ("database", .string grant.database) _ :=
    fills_of_reads (fun found draft => { draft with database := some found }) (reads_string _)
      (by decide) fun _ _ => rfl
  have hschema : Fills tableGrantFields ("schema", .ofOption .string grant.schema) _ :=
    fills_of_reads (fun found draft => { draft with schema := found }) (reads_optional_string _)
      (by decide) fun _ _ => rfl
  have htable : Fills tableGrantFields ("table", .string grant.table) _ :=
    fills_of_reads (fun found draft => { draft with table := some found }) (reads_string _)
      (by decide) fun _ _ => rfl
  apply reads_record h (.cons hdatabase (.cons hschema (.cons htable .nil)))
  · simp
  · simp
  · rfl

/-- A snapshot is read back from what it is written as. -/
theorem reads_permissions {permissions : Permissions} (h : permissions.IsWrittenAs value) :
    Reads decoder value permissions := by
  obtain ⟨schemaGrants, tableGrants, hschemaGrants, htableGrants, hobject⟩ := h
  have hschemas : Reads (Json.Decode.list schemaGrantDecoder) (.array schemaGrants)
      permissions.schemaGrants :=
    reads_list (hschemaGrants.flip.imp fun _ _ => reads_schemaGrant)
  have htables : Reads (Json.Decode.list tableGrantDecoder) (.array tableGrants)
      permissions.tableGrants :=
    reads_list (htableGrants.flip.imp fun _ _ => reads_tableGrant)
  have husername : Fills fields ("username", .string permissions.username) _ :=
    fills_of_reads (fun found draft => { draft with username := found }) (reads_string _)
      (by decide) fun _ _ => rfl
  have hallDatabases : Fills fields ("all_database_access", .bool permissions.allDatabases) _ :=
    fills_of_reads (fun found draft => { draft with allDatabases := found }) (reads_bool _)
      (by decide) fun _ _ => rfl
  have hallTables : Fills fields ("all_datasource_access", .bool permissions.allTables) _ :=
    fills_of_reads (fun found draft => { draft with allTables := found }) (reads_bool _)
      (by decide) fun _ _ => rfl
  have hdatabases : Fills fields ("database_access", .strings permissions.databases.toList) _ :=
    fills_of_reads (fun found draft => { draft with databases := found }) (reads_names _)
      (by decide) fun _ _ => rfl
  have hschemaAccess : Fills fields ("schema_access", .array schemaGrants) _ :=
    fills_of_reads (fun found draft => { draft with schemaGrants := found }) hschemas
      (by decide) fun _ _ => rfl
  have htableAccess : Fills fields ("datasource_access", .array tableGrants) _ :=
    fills_of_reads (fun found draft => { draft with tableGrants := found }) htables
      (by decide) fun _ _ => rfl
  apply reads_record hobject (.cons husername (.cons hallDatabases (.cons hallTables
    (.cons hdatabases (.cons hschemaAccess (.cons htableAccess .nil))))))
  · simp
  · simp
  · rfl

/-! ## Writing -/

theorem isWrittenAs_schemaGrantJson (grant : SchemaGrant) :
    grant.IsWrittenAs (schemaGrantJson grant) :=
  Json.Value.isObjectOf_ofMembers (by simp)

theorem isWrittenAs_tableGrantJson (grant : TableGrant) :
    grant.IsWrittenAs (tableGrantJson grant) :=
  Json.Value.isObjectOf_ofMembers (by simp)

theorem isWrittenAs_toJson (permissions : Permissions) :
    permissions.IsWrittenAs permissions.toJson := by
  refine ⟨_, _, ?_, ?_, Json.Value.isObjectOf_ofMembers (by simp)⟩
  · rw [List.forall₂_map_right_iff, List.forall₂_same]
    intro grant _
    exact isWrittenAs_schemaGrantJson grant
  · rw [List.forall₂_map_right_iff, List.forall₂_same]
    intro grant _
    exact isWrittenAs_tableGrantJson grant

end Permissions

namespace PermissionFile

variable {grants : List Permissions} {content : String}

/-- A file holds some snapshots in their order. -/
def IsWritten (grants : List Permissions) (content : String) : Prop :=
  ∃ values, List.Forall₂ Permissions.IsWrittenAs grants values ∧
    content = (Json.Value.array values).text

theorem read_of_isWritten (h : IsWritten grants content) : read (some content) = .ok grants := by
  obtain ⟨values, hvalues, rfl⟩ := h
  have hreads : Reads (Json.Decode.list Permissions.decoder) (.array values) grants :=
    reads_list (hvalues.flip.imp fun _ _ => Permissions.reads_permissions)
  rw [read, hreads.decode_text]

theorem isWritten_write (grants : List Permissions) : IsWritten grants (write grants) := by
  refine ⟨_, ?_, rfl⟩
  rw [List.forall₂_map_right_iff, List.forall₂_same]
  intro permissions _
  exact permissions.isWrittenAs_toJson

end PermissionFile

end UploadGate
