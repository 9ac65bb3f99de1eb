import UploadGate.Proofs.Permissions.Writing
import UploadGate.Proofs.Reply.Envelope
import UploadGate.Proofs.Service.Closure

/-! # The sources of permissions agree

The same grants may be handed over as a list, kept in a file, or held by a security service. A user
is answered the same in each case: a file gives back the list that was written to it, and a service
passes on the snapshot that the list has for the user, or says that it has none. The user's own name
is on every answer, whatever name stands in the list, the file or the reply.
-/

namespace UploadGate

variable {grants : List Permissions} {user : String} {service : SecurityService}
  {reply : SecurityReply}

/-- A reply passes on what a list of grants has for a user. -/
inductive SecurityReply.PassesOn (grants : List Permissions) (user : String)
    (reply : SecurityReply) : Prop
  /-- A success with the user's snapshot as its data. -/
  | found {permissions : Permissions} {data body : Json.Value}
    (hlookup : (PermissionSource.ofGrants grants).lookup user = .ok permissions)
    (hstatus : reply.status = 200) (hdata : permissions.IsWrittenAs data)
    (hsuccess : Envelope.IsSuccessOf data body) (hbody : reply.body = body.text)
  /-- No grant is the user's. -/
  | notFound (hstatus : reply.status = 404)
    (hothers : ∀ permissions ∈ grants, permissions.username ≠ user)

/-- What a service writes for a user whose snapshot it holds. -/
theorem SecurityReply.passesOn_toJson {permissions : Permissions} {time : Timestamp}
    (htime : time.IsValid)
    (hlookup : (PermissionSource.ofGrants grants).lookup user = .ok permissions) :
    PassesOn grants user
      ⟨200, (Envelope.toJson Permissions.toJson
        { Envelope.ok permissions with about := { timestamp := some time } }).text⟩ :=
  .found hlookup rfl permissions.isWrittenAs_toJson (Envelope.isSuccessOf_toJson _ htime) rfl

namespace PermissionSource

theorem username_of_lastGrant? {permissions : Permissions}
    (h : lastGrant? grants user = some permissions) : permissions.username = user := by
  have hmem := List.mem_of_getLast? h
  simpa using (List.mem_filter.mp hmem).2

/-- A list of grants answers every user under the user's own name. -/
theorem username_of_lookup_ofGrants {permissions : Permissions}
    (h : (ofGrants grants).lookup user = .ok permissions) : permissions.username = user := by
  rw [lookup_ofGrants] at h
  obtain rfl := Except.ok.inj h
  cases hlast : lastGrant? grants user with
  | none => rfl
  | some own => exact username_of_lastGrant? hlast

end PermissionSource

namespace SecurityService

theorem username_of_readBody {body : String} {permissions : Permissions}
    (h : readBody user body = .ok permissions) : permissions.username = user := by
  unfold readBody at h
  split at h
  next => exact absurd h (by simp)
  next =>
    split at h
    next => exact absurd h (by simp)
    next => rw [← Except.ok.inj h]

/-- A security service answers under the user's own name, if it answers. -/
theorem username_of_lookup {permissions : Permissions}
    (h : service.lookup user = .ok permissions) : permissions.username = user := by
  unfold lookup at h
  split at h
  next => exact absurd h (by simp)
  next =>
    unfold readReply at h
    split at h
    next => rw [← Except.ok.inj h]; rfl
    next =>
      split at h
      next => exact username_of_readBody h
      next => exact absurd h (by simp)

/-- A success with a written snapshot gives the snapshot, under the user's name. -/
theorem lookup_of_isSuccessOf {permissions : Permissions} {data body : Json.Value}
    (hreply : service.respond (service.target user) = some reply) (hstatus : reply.status = 200)
    (hdata : permissions.IsWrittenAs data) (hsuccess : Envelope.IsSuccessOf data body)
    (hbody : reply.body = body.text) :
    service.lookup user = .ok { permissions with username := user } := by
  obtain ⟨about, hreads⟩ := Envelope.reads_success (Permissions.reads_permissions hdata)
    (by simp [Permissions.decoder, Json.Decode.record]) hsuccess
  have hdecoded := hreads.decode_text
  rw [← hbody] at hdecoded
  rw [UploadService.lookup_of_envelope hreply (by rw [hstatus]; rfl) hdecoded]

/-- A service that passes on what a list of grants has for a user answers as the list does. -/
theorem lookup_of_passesOn (hreply : service.respond (service.target user) = some reply)
    (hpasses : reply.PassesOn grants user) :
    service.lookup user = (PermissionSource.ofGrants grants).lookup user := by
  cases hpasses with
  | found hlookup hstatus hdata hsuccess hbody =>
    have hname := PermissionSource.username_of_lookup_ofGrants hlookup
    rw [lookup_of_isSuccessOf hreply hstatus hdata hsuccess hbody, hlookup, ← hname]
  | notFound hstatus hothers =>
    rw [lookup_of_respond hreply, readReply, if_pos hstatus,
      PermissionSource.lookup_ofGrants_of_others hothers]

end SecurityService

namespace PermissionSource

/-- Grants are answered alike from a list, from a file that they are written to, and by a service
that passes them on; and every answer bears the name of the user it is for. -/
theorem sources_agree (grants : List Permissions) (user : String) :
    (∀ content, PermissionFile.IsWritten grants content →
      (PermissionFile.read (some content)).map ofGrants = .ok (ofGrants grants)) ∧
    (∀ (service : SecurityService) (reply : SecurityReply),
      service.respond (service.target user) = some reply → reply.PassesOn grants user →
        (remote service).lookup user = (ofGrants grants).lookup user) ∧
    (∀ permissions, (ofGrants grants).lookup user = .ok permissions →
      permissions.username = user) ∧
    ∀ (service : SecurityService) (permissions : Permissions),
      (remote service).lookup user = .ok permissions → permissions.username = user := by
  refine ⟨fun content hcontent => ?_, fun service reply hreply hpasses => ?_, ?_, ?_⟩
  · rw [PermissionFile.read_of_isWritten hcontent]
    rfl
  · exact SecurityService.lookup_of_passesOn hreply hpasses
  · intro permissions hlookup
    exact username_of_lookup_ofGrants hlookup
  · intro service permissions hlookup
    exact SecurityService.username_of_lookup hlookup

/-- The snapshot of a user with access to a database and to a table of unknown schema. -/
def latestGrant : Permissions :=
  ⟨"zoé", false, false, .ofList ["warehouse"], [], [⟨"marts", none, "sales"⟩]⟩

/-- An older snapshot of the user, which no longer counts, and the latest one. -/
def repeatedGrants : List Permissions := [⟨"zoé", true, false, ∅, [], []⟩, latestGrant]

/-- The reply of a service that holds the same snapshots, with the members in the order of the
fields. -/
def repeatedReply : SecurityReply where
  status := 200
  body :=
    "\x7b\"success\":true,\"data\":\x7b\"username\":\"zoé\",\"all_database_access\":false," ++
    "\"all_datasource_access\":false,\"database_access\":[\"warehouse\"]," ++
    "\"schema_access\":[],\"datasource_access\":" ++
    "[\x7b\"database\":\"marts\",\"schema\":null,\"table\":\"sales\"\x7d]\x7d," ++
    "\"meta\":\x7b\"timestamp\":\"2024-02-29T23:59:60.125Z\"\x7d\x7d"

/-- The time of the replies, within a leap second. -/
def replyTime : Timestamp := ⟨2024, 2, 29, 23, 59, 60, 125000000⟩

theorem isValid_replyTime : replyTime.IsValid := by constructor <;> decide

theorem lookup_repeatedGrants : (ofGrants repeatedGrants).lookup "zoé" = .ok latestGrant := by
  rw [lookup_ofGrants]
  rfl

theorem passesOn_repeatedReply : repeatedReply.PassesOn repeatedGrants "zoé" := by
  refine .found lookup_repeatedGrants rfl
    ⟨[], [_], .nil, .cons ⟨_, rfl, .refl _⟩ .nil, _, rfl, .refl _⟩
    ⟨_, _, isValid_replyTime, ⟨_, rfl, .refl _⟩, _, rfl, .refl _⟩ ?_
  decide +kernel

/-- The same reply with its members in ascending order, as they are written. -/
def writtenReply : SecurityReply :=
  ⟨200, (Envelope.toJson Permissions.toJson
    { Envelope.ok latestGrant with about := { timestamp := some replyTime } }).text⟩

theorem passesOn_writtenReply : writtenReply.PassesOn repeatedGrants "zoé" :=
  SecurityReply.passesOn_toJson isValid_replyTime lookup_repeatedGrants

theorem repeatedGrants_sources_agree :
    (PermissionFile.read (some (PermissionFile.write repeatedGrants))).map ofGrants =
        .ok (ofGrants repeatedGrants) ∧
      (remote (UploadService.constantSecurity repeatedReply)).lookup "zoé" =
        (ofGrants repeatedGrants).lookup "zoé" ∧
      (remote (UploadService.constantSecurity writtenReply)).lookup "zoé" =
        (ofGrants repeatedGrants).lookup "zoé" ∧
      (remote (UploadService.constantSecurity ⟨404, ""⟩)).lookup "mallory" =
        (ofGrants repeatedGrants).lookup "mallory" := by
  have hknown := sources_agree repeatedGrants "zoé"
  have hunknown := sources_agree repeatedGrants "mallory"
  have hothers : ∀ permissions ∈ repeatedGrants, permissions.username ≠ "mallory" := by decide
  exact ⟨hknown.1 _ (PermissionFile.isWritten_write repeatedGrants),
    hknown.2.1 _ repeatedReply rfl passesOn_repeatedReply,
    hknown.2.1 _ writtenReply rfl passesOn_writtenReply,
    hunknown.2.1 _ ⟨404, ""⟩ rfl (.notFound rfl hothers)⟩

end PermissionSource

end UploadGate
