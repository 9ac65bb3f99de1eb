import UploadGate.Deployment
import UploadGate.Proofs.Json.Arrays
import UploadGate.Proofs.Permissions.Grants
import UploadGate.Proofs.Service.Authorisation

/-! # Users to whom the service is closed

The service is closed to a user if it offers him no database and accepts none of his submissions,
whatever the registry lists. It is closed exactly to the users whose permissions grant nothing, and
so to everyone of whom the source of permissions knows nothing, or whose permissions it fails to
find out. Of a security service's reply only the data count: the service is closed to a user whose
reply has no data, but not to one whose reply says that it is a failure and has data all the same.
-/

namespace UploadGate

/-! ## Permissions that grant nothing -/

namespace Permissions

variable {permissions : Permissions} {user : String}

/-- No database is granted, and no schema of any. -/
structure GrantsNothing (permissions : Permissions) : Prop where
  databases : ∀ database, ¬ permissions.GrantsDatabase database
  schemas : ∀ database schema, ¬ permissions.GrantsSchema database schema

theorem grantsNothing_none (user : String) : (none user).GrantsNothing :=
  ⟨not_grantsDatabase_none user, not_grantsSchema_none user⟩

/-- What is granted does not depend on the name that the permissions come under. -/
theorem grantsNothing_withUser_iff :
    ({ permissions with username := user } : Permissions).GrantsNothing ↔
      permissions.GrantsNothing :=
  ⟨fun h => ⟨h.databases, h.schemas⟩, fun h => ⟨h.databases, h.schemas⟩⟩

theorem GrantsNothing.not_openTo (h : permissions.GrantsNothing) (connection : Connection) :
    ¬ connection.OpenTo permissions := by
  rintro (hfull | ⟨schema, -, hgrant⟩)
  · exact h.databases _ hfull
  · exact h.schemas _ schema hgrant

end Permissions

/-- No connection is eligible under permissions that grant nothing. -/
theorem eligibleConnections_of_grantsNothing {permissions : Permissions}
    (h : permissions.GrantsNothing) (connections : List Connection) :
    eligibleConnections (some permissions) connections = [] := by
  rw [eligibleConnections, List.filter_eq_nil_iff]
  intro connection _ heligible
  obtain ⟨-, -, hopen⟩ := Connection.isEligible_iff.mp heligible
  exact h.not_openTo connection hopen

/-- No connection is eligible without a snapshot of the permissions. -/
theorem eligibleConnections_none (connections : List Connection) :
    eligibleConnections none connections = [] := by
  rw [eligibleConnections, List.filter_eq_nil_iff]
  intro connection _
  simp [Connection.isEligible, Connection.offersSchema_none]

/-! ## The closed service -/

namespace UploadService

variable {service : UploadService} {user : String}

/-- Nothing is offered to a user, whatever the registry lists, and nothing is accepted from him. -/
structure ClosedTo (service : UploadService) (user : String) : Prop where
  eligible : service.eligible user =
    (service.registry.uploadAllowed.map fun _ => []).mapError .registry
  formView : ∀ kind, service.formView kind user =
    (service.registry.uploadAllowed.map fun _ => ⟨service.form kind, []⟩).mapError .registry
  refused : ∀ kind submission upload, service.validate kind user submission ≠ .ok upload

/-- The service is closed to a user to whom nothing is granted. -/
theorem closedTo_of_grantsNothing (h : (service.permissionsOf user).GrantsNothing) :
    service.ClosedTo user := by
  have heligible : service.eligible user =
      (service.registry.uploadAllowed.map fun _ => []).mapError .registry := by
    unfold eligible
    cases service.registry.uploadAllowed with
    | ok listed =>
      dsimp only
      rw [eligibleConnections_of_grantsNothing h]
      rfl
    | error fault => rfl
  refine ⟨heligible, fun kind => ?_, fun kind submission upload hupload => ?_⟩
  · rw [formView, choices, heligible]
    cases service.registry.uploadAllowed with
    | ok listed => rfl
    | error fault => rfl
  · -- An accepted upload would need an eligible connection as its target.
    obtain ⟨-, connection, -, -, -, -, htarget, -⟩ := target_of_validate hupload
    obtain ⟨-, -, hopen⟩ := Connection.isEligible_iff.mp htarget
    exact h.not_openTo connection hopen

/-- Over a registry of a connection to which the user has access the service is not closed. -/
theorem not_closedTo_of_openTo {connection : Connection} (hflag : connection.allowsUpload = true)
    (hengine : connection.engine = .postgresql)
    (hopen : connection.OpenTo (service.permissionsOf user)) :
    ¬ ClosedTo { service with registry := .connections [connection] } user := by
  intro hclosed
  have heligible : connection.isEligible (some (service.permissionsOf user)) = true :=
    Connection.isEligible_iff.mpr ⟨hflag, by simp [hengine], hopen⟩
  have hlisted : (Registry.connections [connection]).uploadAllowed = .ok [connection] := by
    simp [Registry.uploadAllowed, hflag]
  have hall : eligible { service with registry := .connections [connection] } user =
      .ok [connection] := by
    refine eligible_eq_ok_iff.mpr ⟨[connection], hlisted, ?_⟩
    exact List.filter_eq_self.mpr (List.forall_mem_singleton.mpr heligible)
  have hnone := hclosed.eligible
  rw [hall, hlisted] at hnone
  exact absurd (Except.ok.inj hnone) (by simp)

/-- The service is closed to a user over every registry only if nothing is granted to him. -/
theorem grantsNothing_of_closedTo
    (h : ∀ registry, ClosedTo { service with registry } user) :
    (service.permissionsOf user).GrantsNothing := by
  refine ⟨fun database hgrant => ?_, fun database schema hgrant => ?_⟩
  · let connection : Connection := ⟨0, database, .postgresql, true, ∅⟩
    have hopen : connection.OpenTo (service.permissionsOf user) := Or.inl hgrant
    exact not_closedTo_of_openTo rfl rfl hopen (h _)
  · -- Uploads into the connection are restricted to the very schema that is granted.
    let connection : Connection := ⟨0, database, .postgresql, true, .ofList [schema]⟩
    have hmem : schema ∈ connection.schemas := by simp [connection]
    have hopen : connection.OpenTo (service.permissionsOf user) :=
      Or.inr ⟨schema, hmem, hgrant⟩
    exact not_closedTo_of_openTo rfl rfl hopen (h _)

theorem closedTo_iff_grantsNothing (service : UploadService) (user : String) :
    (∀ registry, ClosedTo { service with registry } user) ↔
      (service.permissionsOf user).GrantsNothing :=
  ⟨grantsNothing_of_closedTo, fun h _ => closedTo_of_grantsNothing h⟩

end UploadService

/-! ## Sources that know nothing of a user -/

/-- A reply of a security service that tells nothing of the user it was asked for. -/
inductive SecurityReply.TellsNothing (reply : SecurityReply) : Prop
  | notFound (hstatus : reply.status = 404)
  | refused (hstatus : ¬ (200 ≤ reply.status ∧ reply.status < 300))
  | malformed {fault : Json.Fault}
    (hbody : Json.decode (Envelope.decoder Permissions.decoder) reply.body = .error fault)
  | noData {envelope : Envelope Permissions}
    (hbody : Json.decode (Envelope.decoder Permissions.decoder) reply.body = .ok envelope)
    (hdata : envelope.data = none)

/-- A source fails to find out the permissions of a user, or has nothing about him. -/
inductive PermissionSource.KnowsNothing (user : String) : PermissionSource → Prop
  | failed {source : PermissionSource} {fault : LookupFault}
    (hlookup : source.lookup user = .error fault) : KnowsNothing user source
  /-- There are grants, but of others alone. -/
  | ungranted {grants : List Permissions}
    (hothers : ∀ permissions ∈ grants, permissions.username ≠ user) :
    KnowsNothing user (.ofGrants grants)
  | replied {service : SecurityService} {reply : SecurityReply}
    (hreply : service.respond (service.target user) = some reply)
    (hnothing : reply.TellsNothing) : KnowsNothing user (.remote service)
  /-- The settings name no source at all. -/
  | unconfigured {surroundings : Surroundings} {settings : Settings} {deployment : Deployment}
    (hstart : Deployment.start surroundings settings = .ok deployment)
    (hurl : settings.securityServiceUrl = none) (hfile : settings.permissionsFile = none) :
    KnowsNothing user deployment.service.permissions
  /-- The settings name a file, in which there are grants of others alone. -/
  | unfiled {surroundings : Surroundings} {settings : Settings} {deployment : Deployment}
    {path : String} {grants : List Permissions}
    (hstart : Deployment.start surroundings settings = .ok deployment)
    (hurl : settings.securityServiceUrl = none) (hfile : settings.permissionsFile = some path)
    (hread : PermissionFile.read (surroundings.file path) = .ok grants)
    (hothers : ∀ permissions ∈ grants, permissions.username ≠ user) :
    KnowsNothing user deployment.service.permissions

namespace Deployment

variable {surroundings : Surroundings} {settings : Settings} {deployment : Deployment}

/-- The source of a deployment is the one that its settings name. -/
theorem permissions_of_start (hstart : start surroundings settings = .ok deployment) :
    permissions surroundings settings = .ok deployment.service.permissions := by
  obtain ⟨_, -, hstarted⟩ := bind_eq_ok_iff.mp hstart
  obtain ⟨source, hsource, hfound⟩ := bind_eq_ok_iff.mp hstarted
  rw [hsource, ← Except.ok.inj hfound]

end Deployment

namespace SecurityService

variable {service : SecurityService} {reply : SecurityReply} {user : String}

/-- A reply that tells nothing is a fault or the empty snapshot. -/
theorem readReply_of_tellsNothing (h : reply.TellsNothing) :
    (∃ fault, readReply user reply = .error fault) ∨ readReply user reply = .ok (.none user) := by
  unfold readReply
  split
  next => exact Or.inr rfl
  next hfound =>
    split
    next hsuccess =>
      have hrange : 200 ≤ reply.status ∧ reply.status < 300 := by
        simpa [Status.isSuccess] using hsuccess
      cases h with
      | notFound hstatus => exact absurd hstatus hfound
      | refused hstatus => exact absurd hrange hstatus
      | malformed hbody => exact Or.inl ⟨.malformed, by rw [readBody, hbody]⟩
      | noData hbody hdata => exact Or.inl ⟨.noData, by rw [readBody, hbody]; simp only [hdata]⟩
    next => exact Or.inl ⟨_, rfl⟩

theorem lookup_of_respond (hreply : service.respond (service.target user) = some reply) :
    service.lookup user = readReply user reply := by
  rw [lookup, hreply]

end SecurityService

namespace PermissionSource

variable {source : PermissionSource} {user : String}

theorem lookup_ofGrants_of_others {grants : List Permissions}
    (hothers : ∀ permissions ∈ grants, permissions.username ≠ user) :
    (ofGrants grants).lookup user = .ok (.none user) := by
  rw [lookup_ofGrants, lastGrant?_of_others hothers]
  rfl

/-- A source that knows nothing of a user either fails or finds the empty snapshot. -/
theorem KnowsNothing.lookup_eq (h : source.KnowsNothing user) :
    (∃ fault, source.lookup user = .error fault) ∨ source.lookup user = .ok (.none user) := by
  cases h with
  | failed hlookup => exact Or.inl ⟨_, hlookup⟩
  | ungranted hothers => exact Or.inr (lookup_ofGrants_of_others hothers)
  | replied hreply hnothing =>
    rw [lookup, SecurityService.lookup_of_respond hreply]
    exact SecurityService.readReply_of_tellsNothing hnothing
  | unconfigured hstart hurl hfile =>
    -- A deployment without a source has the source of no grants.
    have hsource := Deployment.permissions_of_start hstart
    rw [Deployment.permissions, hurl, hfile] at hsource
    rw [← Except.ok.inj hsource]
    exact Or.inr (lookup_ofGrants_of_others (by simp))
  | unfiled hstart hurl hfile hread hothers =>
    have hsource := Deployment.permissions_of_start hstart
    simp only [Deployment.permissions, hurl, hfile, hread] at hsource
    rw [← Except.ok.inj hsource]
    exact Or.inr (lookup_ofGrants_of_others hothers)

end PermissionSource

/-! ## Failing closed -/

namespace UploadService

variable {service : UploadService} {user : String}

theorem permissionsOf_of_knowsNothing (h : service.permissions.KnowsNothing user) :
    service.permissionsOf user = .none user := by
  unfold permissionsOf
  rcases h.lookup_eq with ⟨fault, hlookup⟩ | hlookup
  · rw [hlookup]
  · rw [hlookup]

/-- The service fails closed: it is closed to everyone of whom its source knows nothing, and without
any snapshot of permissions no connection is eligible. -/
theorem closedTo_of_knowsNothing (service : UploadService) (user : String) :
    (service.permissions.KnowsNothing user → service.ClosedTo user) ∧
      ∀ connections, eligibleConnections none connections = [] := by
  refine ⟨fun h => ?_, eligibleConnections_none⟩
  apply closedTo_of_grantsNothing
  rw [permissionsOf_of_knowsNothing h]
  exact Permissions.grantsNothing_none user

/-- A security service that sends back the same reply to every request. -/
def constantSecurity (reply : SecurityReply) : SecurityService where
  address := ⟨"http".toList, [], none⟩
  respond _ := some reply

/-- A service over the warehouse whose permissions come in the same reply for everyone. -/
def repliedService (reply : SecurityReply) : UploadService :=
  ⟨.connections [warehouse], .remote (constantSecurity reply), .builtIn⟩

/-- A success without data. -/
def emptySuccess : SecurityReply := ⟨200, "\x7b\"success\": true\x7d"⟩

theorem closedTo_analyst_of_emptySuccess :
    (repliedService emptySuccess).permissions.KnowsNothing "analyst" ∧
      (repliedService emptySuccess).ClosedTo "analyst" := by
  have hread : (Json.decode (Envelope.decoder Permissions.decoder) emptySuccess.body).toOption.map
      Envelope.data = some none := by decide +kernel
  obtain ⟨envelope, hbody, hdata⟩ := Option.map_eq_some_iff.mp hread
  rw [Json.toOption_eq_some_iff] at hbody
  have hnothing : (repliedService emptySuccess).permissions.KnowsNothing "analyst" :=
    .replied rfl (.noData hbody hdata)
  exact ⟨hnothing, (closedTo_of_knowsNothing (repliedService emptySuccess) "analyst").1 hnothing⟩

/-! ## Replies with an envelope -/

variable {security : SecurityService} {reply : SecurityReply} {envelope : Envelope Permissions}

/-- From the envelope of a success come its data, under the name of the user. -/
theorem lookup_of_envelope (hreply : security.respond (security.target user) = some reply)
    (hstatus : Status.isSuccess reply.status = true)
    (hbody : Json.decode (Envelope.decoder Permissions.decoder) reply.body = .ok envelope) :
    security.lookup user = match envelope.data with
      | some permissions => .ok { permissions with username := user }
      | none => .error .noData := by
  have hfound : reply.status ≠ 404 := by
    intro hnotFound
    rw [hnotFound] at hstatus
    exact absurd hstatus (by decide)
  rw [SecurityService.lookup_of_respond hreply, SecurityService.readReply, if_neg hfound,
    if_pos hstatus, SecurityService.readBody, hbody]
  cases hdata : envelope.data with
  | none => simp only [hdata]
  | some permissions => simp only [hdata]

/-- A success whose body is an envelope closes the service to a user, over every registry, exactly
if the envelope has no data or data that grant nothing. Whether the envelope says that it is a
success or a failure makes no difference. -/
theorem closedTo_iff_of_envelope (settings : UploadSettings)
    (hreply : security.respond (security.target user) = some reply)
    (hstatus : Status.isSuccess reply.status = true)
    (hbody : Json.decode (Envelope.decoder Permissions.decoder) reply.body = .ok envelope) :
    (∀ registry, ClosedTo ⟨registry, .remote security, settings⟩ user) ↔
      ∀ permissions, envelope.data = some permissions → permissions.GrantsNothing := by
  have hlookup := lookup_of_envelope hreply hstatus hbody
  have hclosed := closedTo_iff_grantsNothing ⟨.connections [], .remote security, settings⟩ user
  rw [hclosed, permissionsOf, PermissionSource.lookup, hlookup]
  cases hdata : envelope.data with
  | none =>
    have hnothing := Permissions.grantsNothing_none user
    simpa using hnothing
  | some permissions => simp [Permissions.grantsNothing_withUser_iff]

/-- A failure by its own words, with data that grant every database all the same. -/
def contradictoryReply : SecurityReply :=
  ⟨200, "\x7b\"success\": false, \"data\": \x7b\"all_database_access\": true\x7d\x7d"⟩

theorem exists_envelope_contradictoryReply : ∃ envelope permissions,
    Json.decode (Envelope.decoder Permissions.decoder) contradictoryReply.body = .ok envelope ∧
      envelope.success = false ∧ envelope.data = some permissions ∧
      ∀ database, permissions.GrantsDatabase database := by
  have hread : (Json.decode (Envelope.decoder Permissions.decoder)
      contradictoryReply.body).toOption.map (fun envelope =>
        (envelope.success, envelope.data.map Permissions.allDatabases)) =
      some (false, some true) := by decide +kernel
  obtain ⟨envelope, hbody, hfields⟩ := Option.map_eq_some_iff.mp hread
  rw [Json.toOption_eq_some_iff] at hbody
  obtain ⟨hsuccess, hdata⟩ := Prod.mk.inj hfields
  obtain ⟨permissions, hpermissions, hall⟩ := Option.map_eq_some_iff.mp hdata
  refine ⟨envelope, permissions, hbody, hsuccess, hpermissions, fun database => ?_⟩
  simp [Permissions.GrantsDatabase, hall]

/-- The contradictory reply does not close the service to the user it is sent for. -/
theorem not_closed_by_contradictoryReply :
    ¬ ∀ registry, ClosedTo
      ⟨registry, .remote (constantSecurity contradictoryReply), .builtIn⟩ "mallory" := by
  obtain ⟨envelope, permissions, hbody, -, hdata, hgrants⟩ := exists_envelope_contradictoryReply
  let security := constantSecurity contradictoryReply
  have hreply : security.respond (security.target "mallory") = some contradictoryReply := rfl
  intro hclosed
  have hnothing := (closedTo_iff_of_envelope .builtIn hreply rfl hbody).mp hclosed
  exact (hnothing permissions hdata).databases "warehouse" (hgrants "warehouse")

/-- The envelope of a failure need not close the service. -/
theorem failure_envelope_does_not_close :
    ¬ ∀ (security : SecurityService) (user : String) (reply : SecurityReply)
        (envelope : Envelope Permissions),
      security.respond (security.target user) = some reply →
      Status.isSuccess reply.status = true →
      Json.decode (Envelope.decoder Permissions.decoder) reply.body = .ok envelope →
      envelope.success = false →
      ∀ registry settings, ClosedTo ⟨registry, .remote security, settings⟩ user := by
  intro hcloses
  obtain ⟨envelope, permissions, hbody, hsuccess, hdata, hgrants⟩ :=
    exists_envelope_contradictoryReply
  let security := constantSecurity contradictoryReply
  have hlookup : security.lookup "mallory" = .ok { permissions with username := "mallory" } := by
    rw [lookup_of_envelope rfl rfl hbody, hdata]
  let service : UploadService := ⟨.connections [warehouse], .remote security, .builtIn⟩
  have hsnapshot : service.permissionsOf "mallory" =
      { permissions with username := "mallory" } := by
    rw [permissionsOf, PermissionSource.lookup, hlookup]
  -- The reply opens the warehouse, so that a registry of it is not closed.
  have hopen : warehouse.OpenTo (service.permissionsOf "mallory") := by
    rw [hsnapshot]
    exact Or.inl (hgrants warehouse.name)
  refine not_closedTo_of_openTo rfl rfl hopen ?_
  exact hcloses security "mallory" contradictoryReply envelope rfl rfl hbody hsuccess _ _

end UploadService

end UploadGate
