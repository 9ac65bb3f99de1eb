import UploadGate.Proofs.Form.Widening
import UploadGate.Proofs.Registry
import UploadGate.Proofs.Service.Authorisation
import UploadGate.Proofs.Service.Dependence

/-! # More permissions take nothing away

Whatever is eligible, allowed or accepted under some permissions is so under all permissions that
they lie within, and an accepted submission is accepted as the same upload. For uploads the ids of
the listed connections have to be distinct: with more permissions another connection with the same
id may become eligible, stand before the target and refuse the schema.
-/

namespace UploadGate

namespace UploadService

variable {service : UploadService} {source : PermissionSource} {kind : Form.Kind} {user : String}
  {submission : Form.Submission} {upload : Form.Upload}

/-- A submission that is accepted is accepted as the same upload if the source knows of more
permissions of the user. -/
theorem validate_mono (hdistinct : service.registry.ListsDistinctIds)
    (hwithin : (service.permissionsOf user).Within
      ((service.withPermissions source).permissionsOf user))
    (h : service.validate kind user submission = .ok upload) :
    (service.withPermissions source).validate kind user submission = .ok upload := by
  obtain ⟨hshape, connections, heligible, hform, connection, htarget, hallowed⟩ :=
    validate_eq_ok_iff.mp h
  obtain ⟨listed, hlisted, rfl⟩ := eligible_eq_ok_iff.mp heligible
  have hsublist := eligibleConnections_sublist hwithin listed
  let more := eligibleConnections
    (some ((service.withPermissions source).permissionsOf user)) listed
  have hmore : (service.withPermissions source).eligible user = .ok more :=
    eligible_eq_ok_iff.mpr ⟨listed, hlisted, rfl⟩
  -- The form finds the database that was asked for among more choices, too.
  have hchoices : ∀ id ∈ ((eligibleConnections (some (service.permissionsOf user)) listed).map
      Connection.choice).map Choice.id, id ∈ (more.map Connection.choice).map Choice.id :=
    fun _ hid => ((hsublist.map Connection.choice).map Choice.id).subset hid
  have hmoreForm : ((service.withPermissions source).form kind).validate
      (more.map Connection.choice) submission = .ok upload := Form.validate_of_subset hchoices hform
  -- As ids are distinct, the target is found where it was.
  have hids : (more.map Connection.id).Nodup :=
    (hdistinct listed hlisted).sublist (List.filter_sublist.map Connection.id)
  have hmem : connection ∈ more := hsublist.subset (List.mem_of_find?_eq_some htarget)
  have hid : connection.id = upload.databaseId := by simpa using List.find?_some htarget
  have hmoreTarget : more.find? (·.id = upload.databaseId) = some connection := by
    rw [← hid]
    exact find?_of_nodup_map hids hmem
  exact validate_eq_ok_iff.mpr ⟨hshape, more, hmore, hmoreForm, connection, hmoreTarget,
    Connection.allowsSchema_mono hwithin hallowed⟩

end UploadService

namespace Permissions

variable {permissions more : Permissions}

/-- What holds under some permissions holds under others as well, be it that a connection is
eligible, that a schema is allowed, or that a submission is accepted. -/
structure Preserved (permissions more : Permissions) : Prop where
  eligible : ∀ connections, (eligibleConnections (some permissions) connections).Sublist
    (eligibleConnections (some more) connections)
  schema : ∀ (connection : Connection) schema,
    connection.allowsSchema (some permissions) schema = true →
      connection.allowsSchema (some more) schema = true
  upload : ∀ (service : UploadService) source user kind submission upload,
    service.registry.ListsDistinctIds → service.permissionsOf user = permissions →
      (service.withPermissions source).permissionsOf user = more →
      service.validate kind user submission = .ok upload →
      (service.withPermissions source).validate kind user submission = .ok upload

/-- Nothing tells two snapshots apart: the same connections are eligible, the same schemas allowed,
and all answers to the user are the same, refusals included. -/
structure Interchangeable (permissions other : Permissions) : Prop where
  eligible : ∀ connections, eligibleConnections (some permissions) connections =
    eligibleConnections (some other) connections
  schema : ∀ (connection : Connection) schema,
    connection.allowsSchema (some permissions) schema =
      connection.allowsSchema (some other) schema
  answers : ∀ (service : UploadService) source user, service.permissionsOf user = permissions →
    (service.withPermissions source).permissionsOf user = other →
      service.SameAnswers (service.withPermissions source) user

/-- More permissions take nothing away. Where each of two snapshots lies within the other one, so
that they differ in the order and repetition of grants alone, they are interchangeable. -/
theorem preserved_of_within (h : permissions.Within more) :
    permissions.Preserved more ∧ (more.Within permissions → permissions.Interchangeable more) := by
  constructor
  · refine ⟨eligibleConnections_sublist h, fun _ _ => Connection.allowsSchema_mono h, ?_⟩
    rintro service source user kind submission upload hdistinct rfl rfl
    exact UploadService.validate_mono hdistinct h
  · intro hcontains
    have hsame : permissions.SameGrants more := ⟨h, hcontains⟩
    refine ⟨eligibleConnections_congr hsame, fun _ _ => Connection.allowsSchema_congr hsame, ?_⟩
    rintro service source user rfl rfl
    exact UploadService.sameAnswers_of_sameGrants hsame

/-- A connection that is listed before the warehouse. -/
def archive : Connection := ⟨2, "archive", .mysql, true, ∅⟩

/-- The analyst with access to the archive, and with more grants for the warehouse. -/
def curator : Permissions :=
  { UploadService.analyst with
    databases := .ofList ["archive"]
    schemaGrants := [⟨"warehouse", "ops"⟩, ⟨"warehouse", "sales"⟩, ⟨"warehouse", "ops"⟩] }

/-- A service over the archive and the warehouse. -/
def archiveService (source : PermissionSource) : UploadService :=
  ⟨.connections [archive, UploadService.warehouse], source, .builtIn⟩

theorem preserved_analyst_curator :
    UploadService.analyst.Within curator ∧ ∃ upload,
      (archiveService (.ofGrants [UploadService.analyst])).validate .columnar "analyst"
        (UploadService.salesFile "sales") = .ok upload ∧
      (archiveService (.ofGrants [curator])).validate .columnar "analyst"
        (UploadService.salesFile "sales") = .ok upload := by
  have hwithin : UploadService.analyst.Within curator := by
    refine ⟨id, id, fun database hdatabase => ?_, ?_, fun grant hgrant => hgrant⟩
    · exact absurd hdatabase (NameSet.not_mem_empty database)
    · decide
  have hdistinct : (archiveService (.ofGrants [UploadService.analyst])).registry.ListsDistinctIds :=
    Registry.listsDistinctIds_of_nodup_ids (by decide)
  have hanalyst : (archiveService (.ofGrants [UploadService.analyst])).permissionsOf "analyst" =
      UploadService.analyst := by decide
  have hcurator : (archiveService (.ofGrants [curator])).permissionsOf "analyst" = curator := by
    decide
  obtain ⟨upload, hupload⟩ : ∃ upload,
      (archiveService (.ofGrants [UploadService.analyst])).validate .columnar "analyst"
        (UploadService.salesFile "sales") = .ok upload := ⟨_, rfl⟩
  exact ⟨hwithin, upload, hupload, (preserved_of_within hwithin).1.upload _ (.ofGrants [curator])
    "analyst" .columnar (UploadService.salesFile "sales") upload hdistinct hanalyst hcurator
    hupload⟩

end Permissions

end UploadGate
