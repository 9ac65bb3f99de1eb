import UploadGate.Proofs.Registry
import UploadGate.Proofs.Service.Authorisation

/-! # What is offered is what can be accepted

A user is offered a database exactly if some submission of his is accepted for it. For a connection
without restricted schemas a plain submission will do; for any other one it has to name one of them,
which it can if the schemas are such that they can be typed in, as those of a table are.
-/

namespace UploadGate.UploadService

variable {service : UploadService} {kind : Form.Kind} {user : String} {id : Int}
  {connections : List Connection}

/-- Some submission of a user is accepted for a database. -/
def Accepts (service : UploadService) (kind : Form.Kind) (user : String) (id : Int) : Prop :=
  ∃ submission upload, service.validate kind user submission = .ok upload ∧ upload.databaseId = id

theorem choices_of_eligible (heligible : service.eligible user = .ok connections) :
    service.choices user = .ok (connections.map Connection.choice) := by
  rw [choices, heligible]
  rfl

theorem formView_of_eligible (heligible : service.eligible user = .ok connections) :
    service.formView kind user =
      .ok ⟨service.form kind, connections.map Connection.choice⟩ := by
  rw [formView, choices_of_eligible heligible]
  rfl

theorem map_id_choice : (connections.map Connection.choice).map Choice.id =
    connections.map Connection.id := by
  rw [List.map_map]
  rfl

/-- Nothing but the eligible connections is accepted. -/
theorem mem_of_accepts (heligible : service.eligible user = .ok connections)
    (h : service.Accepts kind user id) : id ∈ connections.map Connection.id := by
  obtain ⟨submission, upload, hupload, rfl⟩ := h
  obtain ⟨-, found, hfound, hform, -⟩ := validate_eq_ok_iff.mp hupload
  obtain rfl := Except.ok.inj (heligible.symm.trans hfound)
  obtain ⟨hlisted, -⟩ := Form.databaseId_of_validate_catalog hform
  rw [map_id_choice] at hlisted
  exact hlisted

theorem isEligible_of_mem {connection : Connection}
    (heligible : service.eligible user = .ok connections) (hmem : connection ∈ connections) :
    connection.isEligible (some (service.permissionsOf user)) = true := by
  obtain ⟨listed, -, rfl⟩ := eligible_eq_ok_iff.mp heligible
  exact (List.mem_filter.mp hmem).2

theorem accepts_of_form {submission : Form.Submission} {upload : Form.Upload}
    {connection : Connection} (heligible : service.eligible user = .ok connections)
    (hshape : submission.shapeErrors = [])
    (hupload : (service.form kind).validate (connections.map Connection.choice) submission =
      .ok upload)
    (hid : upload.databaseId = id) (htarget : connections.find? (·.id = id) = some connection)
    (hallowed :
      connection.allowsSchema (some (service.permissionsOf user)) upload.schema = true) :
    service.Accepts kind user id := by
  subst hid
  refine ⟨submission, upload, validate_eq_ok_iff.mpr ?_, rfl⟩
  exact ⟨hshape, connections, heligible, hupload, connection, htarget, hallowed⟩

/-- Every eligible connection that can be typed in has a submission that is accepted for it. Where
several share an id, the first of them takes it. -/
theorem accepts_of_mem (heligible : service.eligible user = .ok connections)
    (htypeable : ∀ connection ∈ connections, connection.IsTypeable)
    (hextension : kind.extension ∈ service.upload.extensionsFor kind)
    (hid : id ∈ connections.map Connection.id) : service.Accepts kind user id := by
  -- The service takes the first connection with the id, not the one that `hid` gives.
  obtain ⟨connection, htarget⟩ : ∃ connection,
      connections.find? (·.id = id) = some connection := by
    rw [← Option.isSome_iff_exists, List.find?_isSome]
    simpa using hid
  have hmem := List.mem_of_find?_eq_some htarget
  have hconnectionId : connection.id = id := by simpa using List.find?_some htarget
  have hrange : Numeral.InRange id := hconnectionId ▸ (htypeable connection hmem).id
  rw [← map_id_choice] at hid
  obtain ⟨upload, hupload, huploadId⟩ := Form.exists_validate_plain hrange hid hextension
  obtain ⟨hflag, -, hopen⟩ := Connection.isEligible_iff.mp (isEligible_of_mem heligible hmem)
  by_cases hfree : connection.schemas = ∅
  · -- No schema can be granted, so that the user has full access and need not name one.
    have hfull : (service.permissionsOf user).GrantsDatabase connection.name := by
      rcases hopen with hfull | ⟨schema, hschema, -⟩
      · exact hfull
      · exact absurd hfree (NameSet.ne_empty_of_mem hschema)
    have hallowed : connection.allowsSchema (some (service.permissionsOf user)) upload.schema =
        true := Connection.allowsSchema_iff.mpr ⟨hflag, Or.inl ⟨hfree, hfull⟩⟩
    exact accepts_of_form heligible (Form.shapeErrors_plain kind id) hupload huploadId htarget
      hallowed
  · -- Any restricted schema will do, whether or not it is the granted one.
    obtain ⟨schema, hschema⟩ := NameSet.exists_mem_of_ne_empty hfree
    obtain ⟨htrim, hne⟩ := (htypeable connection hmem).schemas schema hschema
    obtain ⟨moved, hmoved, hmovedId, hmovedSchema⟩ :=
      Form.exists_validate_withSchema hupload htrim hne
    have hallowed : connection.allowsSchema (some (service.permissionsOf user)) moved.schema =
        true := Connection.allowsSchema_iff.mpr ⟨hflag, Or.inr ⟨schema, hschema, hmovedSchema⟩⟩
    have hshape : ((Form.plain kind id).withSchema schema).shapeErrors = [] := by
      rw [Form.shapeErrors_withSchema]
      exact Form.shapeErrors_plain kind id
    exact accepts_of_form heligible hshape hmoved (hmovedId.trans huploadId) htarget hallowed

/-! ## Tables -/

/-- The service over a table, with the built-in settings. -/
def overTable (rows : List Row) (complaint : String) (permissions : PermissionSource) :
    UploadService :=
  ⟨.table (some rows) complaint, permissions, .builtIn⟩

variable {rows : List Row} {complaint : String} {listed : List Connection}

/-- A table that can be read is offered as it is accepted, on the list of databases and in the view
of every form. -/
theorem overTable_accepts_iff_offered (permissions : PermissionSource) (kind : Form.Kind)
    (user : String) (hlisted : (Registry.table (some rows) complaint).uploadAllowed = .ok listed) :
    ∃ offered view, (overTable rows complaint permissions).choices user = .ok offered ∧
      (overTable rows complaint permissions).formView kind user = .ok view ∧
      ∀ id,
        ((overTable rows complaint permissions).Accepts kind user id ↔
          id ∈ offered.map Choice.id) ∧
        ((overTable rows complaint permissions).Accepts kind user id ↔
          id ∈ view.databases.map Choice.id) := by
  obtain ⟨connections, heligible⟩ : ∃ connections,
      (overTable rows complaint permissions).eligible user = .ok connections :=
    ⟨_, eligible_eq_ok_iff.mpr ⟨listed, hlisted, rfl⟩⟩
  have htypeable : ∀ connection ∈ connections, connection.IsTypeable := by
    obtain ⟨found, hfound, rfl⟩ := eligible_eq_ok_iff.mp heligible
    intro connection hmem
    exact Registry.isTypeable_of_mem_uploadAllowed_table hfound (List.mem_filter.mp hmem).1
  have haccepts : ∀ id, (overTable rows complaint permissions).Accepts kind user id ↔
      id ∈ (connections.map Connection.choice).map Choice.id := by
    intro id
    rw [map_id_choice]
    exact ⟨mem_of_accepts heligible,
      accepts_of_mem heligible htypeable Form.extension_mem_builtIn⟩
  exact ⟨_, _, choices_of_eligible heligible, formView_of_eligible heligible,
    fun id => ⟨haccepts id, haccepts id⟩⟩

/-- A row whose uploads are restricted to schemas in its extra document. -/
def warehouseRow : Row where
  id := .integer 3
  name := .text "warehouse"
  uri := .text "postgresql+psycopg2://localhost/warehouse"
  flag := .integer 1
  extra := .text "\x7b\"schemas_allowed_for_file_upload\": [\" sales \", \"ops\"]\x7d"

theorem overTable_warehouseRow_accepts_iff_offered :
    ∃ listed, (Registry.table (some [warehouseRow]) "").uploadAllowed = .ok listed ∧
      ∃ offered view,
        (overTable [warehouseRow] "" (.ofGrants [analyst])).choices "analyst" = .ok offered ∧
        (overTable [warehouseRow] "" (.ofGrants [analyst])).formView .csv "analyst" = .ok view ∧
        ∀ id, ((overTable [warehouseRow] "" (.ofGrants [analyst])).Accepts .csv "analyst" id ↔
            id ∈ offered.map Choice.id) ∧
          ((overTable [warehouseRow] "" (.ofGrants [analyst])).Accepts .csv "analyst" id ↔
            id ∈ view.databases.map Choice.id) := by
  obtain ⟨listed, hlisted⟩ : ∃ listed,
      (Registry.table (some [warehouseRow]) "").uploadAllowed = .ok listed := ⟨_, rfl⟩
  exact ⟨listed, hlisted,
    overTable_accepts_iff_offered (.ofGrants [analyst]) .csv "analyst" hlisted⟩

end UploadGate.UploadService
