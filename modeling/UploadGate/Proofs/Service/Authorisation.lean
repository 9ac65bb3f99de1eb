import UploadGate.Proofs.Eligibility
import UploadGate.Proofs.Form.Plain
import UploadGate.Proofs.Outcome
import UploadGate.Service

/-! # Who may upload where

An accepted upload goes into one of the connections of the registry that are eligible for its user,
and into a schema that the connection allows. A user without full access to it is confined to the
schemas to which its uploads are restricted, one of which must be granted to him; the schema of the
upload need not be that one.
-/

namespace UploadGate

namespace UploadService

variable {service : UploadService} {kind : Form.Kind} {user : String}
  {submission : Form.Submission} {upload : Form.Upload}

/-- The connection that a user's upload goes into, the first eligible one with its id. -/
def target? (service : UploadService) (user : String) (upload : Form.Upload) : Option Connection :=
  match service.eligible user with
  | .ok connections => connections.find? (·.id = upload.databaseId)
  | .error _ => none

theorem eligible_eq_ok_iff {connections : List Connection} :
    service.eligible user = .ok connections ↔
      ∃ listed, service.registry.uploadAllowed = .ok listed ∧
        eligibleConnections (some (service.permissionsOf user)) listed = connections := by
  unfold eligible
  cases service.registry.uploadAllowed <;> simp

theorem accept_eq_ok_iff {connections : List Connection} {accepted : Form.Upload} :
    service.accept user connections upload = .ok accepted ↔
      upload = accepted ∧ ∃ connection,
        connections.find? (·.id = upload.databaseId) = some connection ∧
          connection.allowsSchema (some (service.permissionsOf user)) upload.schema = true := by
  unfold accept
  split
  next hnone => simp [hnone]
  next connection hfound =>
    rw [hfound]
    split
    next hallowed => simp [hallowed]
    next hallowed => simp [hallowed]

/-- The stages of an accepted submission: its shape, the registry, the fields, and the schema. -/
theorem validate_eq_ok_iff :
    service.validate kind user submission = .ok upload ↔
      submission.shapeErrors = [] ∧ ∃ connections, service.eligible user = .ok connections ∧
        (service.form kind).validate (connections.map Connection.choice) submission = .ok upload ∧
        ∃ connection, connections.find? (·.id = upload.databaseId) = some connection ∧
          connection.allowsSchema (some (service.permissionsOf user)) upload.schema = true := by
  unfold validate
  cases hshape : submission.shapeErrors with
  | cons => simp
  | nil =>
    simp only [List.isEmpty_nil, Bool.not_true, Bool.false_eq_true, if_false, bind_eq_ok_iff,
      true_and]
    refine exists_congr fun connections => and_congr_right fun _ => ?_
    cases (service.form kind).validate (connections.map Connection.choice) submission with
    | error problems => simp
    | ok found =>
      simp only [accept_eq_ok_iff, Except.ok.injEq]
      apply and_congr_right
      rintro rfl
      rfl

/-- An accepted upload has a target, which is listed, eligible, and allows the schema. -/
theorem target_of_validate (h : service.validate kind user submission = .ok upload) :
    ∃ listed connection, service.registry.uploadAllowed = .ok listed ∧
      service.target? user upload = some connection ∧ connection ∈ listed ∧
      connection.id = upload.databaseId ∧
      connection.isEligible (some (service.permissionsOf user)) = true ∧
      connection.allowsSchema (some (service.permissionsOf user)) upload.schema = true := by
  obtain ⟨-, connections, heligible, -, connection, hfound, hallowed⟩ := validate_eq_ok_iff.mp h
  have htarget : service.target? user upload = some connection := by
    rw [target?, heligible]
    exact hfound
  obtain ⟨listed, hlisted, rfl⟩ := eligible_eq_ok_iff.mp heligible
  have hmem := List.mem_filter.mp (List.mem_of_find?_eq_some hfound)
  have hid : connection.id = upload.databaseId := by simpa using List.find?_some hfound
  exact ⟨listed, connection, hlisted, htarget, hmem.1, hid, hmem.2, hallowed⟩

/-- A user whose permissions cannot be found out has no access to any connection. -/
theorem lookup_of_openTo {connection : Connection}
    (h : connection.OpenTo (service.permissionsOf user)) :
    service.permissions.lookup user = .ok (service.permissionsOf user) := by
  unfold permissionsOf at h ⊢
  cases hlookup : service.permissions.lookup user with
  | ok permissions => rfl
  | error fault =>
    rw [hlookup] at h
    rcases h with h | ⟨schema, -, h⟩
    · exact absurd h (Permissions.not_grantsDatabase_none user _)
    · exact absurd h (Permissions.not_grantsSchema_none user _ schema)

/-! ## Authorised uploads -/

/-- What entitles a user with some permissions to an upload into a connection. -/
structure Authorises (permissions : Permissions) (connection : Connection) (upload : Form.Upload) :
    Prop where
  target : connection.id = upload.databaseId
  flag : connection.allowsUpload = true
  engine : connection.engine ≠ .gsheets ∧ connection.engine ≠ .clickHouse
  access : connection.OpenTo permissions
  restricted : connection.schemas ≠ ∅ → ∃ schema ∈ connection.schemas, upload.schema = some schema
  unrestricted : connection.schemas = ∅ → permissions.GrantsDatabase connection.name

/-- Every accepted upload goes into a listed connection for which the permissions that the source
gave for the user entitle him to it. -/
theorem exists_authorises_of_validate (h : service.validate kind user submission = .ok upload) :
    ∃ listed permissions connection, service.registry.uploadAllowed = .ok listed ∧
      service.permissions.lookup user = .ok permissions ∧ connection ∈ listed ∧
      Authorises permissions connection upload := by
  obtain ⟨listed, connection, hlisted, -, hmem, hid, heligible, hallowed⟩ := target_of_validate h
  obtain ⟨hflag, hengine, hopen⟩ := Connection.isEligible_iff.mp heligible
  obtain ⟨-, hschema⟩ := Connection.allowsSchema_iff.mp hallowed
  refine ⟨listed, _, connection, hlisted, lookup_of_openTo hopen, hmem, ?_⟩
  refine ⟨hid, hflag, hengine, hopen, fun hrestricted => ?_, fun hunrestricted => ?_⟩
  · exact hschema.resolve_left fun h => hrestricted h.1
  · rcases hschema with ⟨-, hfull⟩ | ⟨schema, hmem, -⟩
    · exact hfull
    · exact absurd hunrestricted (NameSet.ne_empty_of_mem hmem)

/-- A connection to which a user has no full access, and whose uploads are restricted. -/
def warehouse : Connection := ⟨3, "warehouse", .postgresql, true, .ofList ["ops", "sales"]⟩

/-- A user with a grant for one of the schemas of the warehouse. -/
def analyst : Permissions :=
  { Permissions.none "analyst" with schemaGrants := [⟨"warehouse", "sales"⟩] }

def warehouseService : UploadService := ⟨.connections [warehouse], .ofGrants [analyst], .builtIn⟩

/-- A file for a table in one of the schemas of the warehouse. -/
def salesFile (schema : String) : Form.Submission where
  fields := .ofList
    [("name", "sales"), ("database", "3"), ("if_exists", "fail"), ("schema", schema)]
  files := [⟨"columnar_file", "sales.parquet"⟩]

theorem authorises_analyst_into_sales :
    ∃ upload, warehouseService.validate .columnar "analyst" (salesFile "sales") = .ok upload ∧
      ∃ listed permissions connection, warehouseService.registry.uploadAllowed = .ok listed ∧
        warehouseService.permissions.lookup "analyst" = .ok permissions ∧ connection ∈ listed ∧
        Authorises permissions connection upload := by
  obtain ⟨upload, hupload⟩ :
      ∃ upload, warehouseService.validate .columnar "analyst" (salesFile "sales") = .ok upload :=
    ⟨_, rfl⟩
  exact ⟨upload, hupload, exists_authorises_of_validate hupload⟩

/-! ## Users without full access -/

/-- Putting in another schema of the target changes that of the upload alone. -/
theorem exists_validate_withSchema {connection : Connection} {schema : String}
    (h : service.validate kind user submission = .ok upload)
    (htarget : service.target? user upload = some connection)
    (hschema : schema ∈ connection.schemas) (htrim : Text.trim schema = schema)
    (hne : schema ≠ "") :
    ∃ moved, service.validate kind user (submission.withSchema schema) = .ok moved ∧
      moved.databaseId = upload.databaseId ∧ moved.schema = some schema := by
  obtain ⟨hshape, connections, heligible, hform, found, hfound, hallowed⟩ :=
    validate_eq_ok_iff.mp h
  -- The eligible connections depend on the user alone, so that the target stays the same.
  rw [target?, heligible] at htarget
  obtain rfl : found = connection := Option.some.inj (hfound.symm.trans htarget)
  obtain ⟨moved, hmoved, hid, hmovedSchema⟩ := Form.exists_validate_withSchema hform htrim hne
  have hmovedAllowed :
      found.allowsSchema (some (service.permissionsOf user)) moved.schema = true := by
    obtain ⟨hflag, -⟩ := Connection.allowsSchema_iff.mp hallowed
    exact Connection.allowsSchema_iff.mpr ⟨hflag, Or.inr ⟨schema, hschema, hmovedSchema⟩⟩
  refine ⟨moved, validate_eq_ok_iff.mpr ⟨hshape, connections, heligible, hmoved, found, ?_,
    hmovedAllowed⟩, hid, hmovedSchema⟩
  rw [hid]
  exact hfound

/-- How a connection confines an upload of a user without full access to it: to the restricted
schemas, and only if the user has a grant for one of them; but then to any one of them, by another
schema in the same submission. -/
structure Confines (service : UploadService) (kind : Form.Kind) (user : String)
    (submission : Form.Submission) (upload : Form.Upload) (connection : Connection) : Prop where
  restricted : ∃ schema ∈ connection.schemas, upload.schema = some schema
  granted : ∃ schema ∈
    (service.permissionsOf user).accessibleSchemas connection connection.schemas,
      (service.permissionsOf user).GrantsSchema connection.name schema
  free : ∀ schema ∈ connection.schemas, Text.trim schema = schema → schema ≠ "" →
    ∃ moved, service.validate kind user (submission.withSchema schema) = .ok moved ∧
      moved.databaseId = upload.databaseId ∧ moved.schema = some schema

/-- Without full access to the target of his upload a user is confined to its restricted schemas,
one of which must be granted to him. -/
theorem confines_of_validate (h : service.validate kind user submission = .ok upload) :
    ∃ connection, service.target? user upload = some connection ∧
      (¬ (service.permissionsOf user).GrantsDatabase connection.name →
        Confines service kind user submission upload connection) := by
  obtain ⟨-, connection, -, htarget, -, -, heligible, hallowed⟩ := target_of_validate h
  obtain ⟨-, -, hopen⟩ := Connection.isEligible_iff.mp heligible
  obtain ⟨-, hschema⟩ := Connection.allowsSchema_iff.mp hallowed
  refine ⟨connection, htarget, ?_⟩
  intro hlimited
  obtain ⟨granted, hgranted, hgrant⟩ := hopen.resolve_left hlimited
  have haccess := Permissions.mem_accessibleSchemas.mpr ⟨hgranted, Or.inr hgrant⟩
  have hrestricted := hschema.resolve_left fun hfull => hlimited hfull.2
  exact ⟨hrestricted, ⟨granted, haccess, hgrant⟩, fun schema hmem htrim hne =>
    exists_validate_withSchema h htarget hmem htrim hne⟩

theorem warehouse_confines_analyst :
    ∃ upload, warehouseService.validate .columnar "analyst" (salesFile "ops") = .ok upload ∧
      ∃ connection, warehouseService.target? "analyst" upload = some connection ∧
        (¬ (warehouseService.permissionsOf "analyst").GrantsDatabase connection.name →
          Confines warehouseService .columnar "analyst" (salesFile "ops") upload connection) := by
  obtain ⟨upload, hupload⟩ :
      ∃ upload, warehouseService.validate .columnar "analyst" (salesFile "ops") = .ok upload :=
    ⟨_, rfl⟩
  exact ⟨upload, hupload, confines_of_validate hupload⟩

/-- The schema of the upload itself need not be granted. -/
theorem not_confined_to_granted_schemas :
    ¬ ∀ (service : UploadService) (kind : Form.Kind) (user : String)
      (submission : Form.Submission) (upload : Form.Upload) (connection : Connection),
      service.validate kind user submission = .ok upload →
      service.target? user upload = some connection →
      ¬ (service.permissionsOf user).GrantsDatabase connection.name →
      ∃ schema, upload.schema = some schema ∧
        schema ∈ (service.permissionsOf user).accessibleSchemas connection connection.schemas := by
  intro hall
  obtain ⟨upload, hupload, htarget, hops⟩ : ∃ upload,
      warehouseService.validate .columnar "analyst" (salesFile "ops") = .ok upload ∧
        warehouseService.target? "analyst" upload = some warehouse ∧
        upload.schema = some "ops" := ⟨_, rfl, rfl, rfl⟩
  have hlimited :
      ¬ (warehouseService.permissionsOf "analyst").GrantsDatabase warehouse.name := by
    rw [← Permissions.hasFullAccess_iff]
    decide
  -- The upload goes into "ops", while the grant is for "sales".
  obtain ⟨schema, hschema, haccess⟩ := hall _ _ _ _ _ _ hupload htarget hlimited
  rw [hops, Option.some.injEq] at hschema
  subst hschema
  revert haccess
  decide

end UploadService

end UploadGate
