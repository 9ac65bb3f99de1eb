import UploadGate.Permissions.File
import UploadGate.Service
import UploadGate.Settings.Basic
import UploadGate.Settings.ScratchDatabase

/-! # Deployments

A deployment is the service as its settings make it. The registry reads the database that the
settings name, over a pool of links to it; without a database there are no connections. Permissions
come from the security service if there is one, or else from the permission file, or else from
nowhere.
-/

namespace UploadGate

/-- What stands outside of a deployment, as far as its start can meet it. -/
structure Surroundings where
  /-- The rows of the table of connections, if there is such a table, in the lasting database of
  an address; nothing if there is no such database. -/
  database : String → Option (Option (List Row))
  /-- What the database of an address says if the connections cannot be listed. -/
  complaint : String → String
  /-- The content of a file, if it can be read and is in UTF-8. -/
  file : String → Option String
  /-- What comes back from a security service to a request for a target: the reply after at most ten
  redirections, if there is one. -/
  security : Address → String → Option SecurityReply

structure Deployment where
  settings : Settings
  service : UploadService

namespace Deployment

/-- Why a deployment cannot start. -/
inductive Fault where
  | settings (fault : Settings.Fault)
  | noDatabase
  /-- No pool can have the size or the timeout. -/
  | badPool
  | badSecurityUrl (url : String)
  | permissionFile (path : String) (fault : PermissionFile.Fault)
deriving DecidableEq

/-- What is reported of a text that is no address of a security service. An address to which nothing
can be added is repeated in the spelling of a library, which says of any other text what is wrong
with it. -/
def badUrlMessage (url detail : String) : String :=
  if Address.isOpaqueText url then "安全服务地址无效: " ++ detail
  else "安全服务地址无效 " ++ url ++ ": " ++ detail

/-- The error that is reported, with what a library says of the failure. A deployment without a
possible pool breaks off and reports none. -/
def Fault.toError? (detail : String) : Fault → Option ServiceError
  | settings fault => some (.configuration (fault.message detail))
  | noDatabase => some (.databaseConnection detail)
  | badPool => none
  | badSecurityUrl url => some (.configuration (badUrlMessage url detail))
  | permissionFile path fault => some (.configuration (fault.message path detail))

/-- The timeouts from here on end after the last second of the clock. -/
def endlessTimeout : Nat := 9223372036854775807

/-- What the database of an address holds for the registry. -/
def database (surroundings : Surroundings) (url : String) : Option (Option (List Row)) :=
  if ScratchDatabase.isNamedBy url then some none else surroundings.database url

/-- The registry in the database of an address. Without any time to wait there is no link to it. -/
def sharedRegistry (surroundings : Surroundings) (settings : Settings) (url : String) :
    Except Fault Registry :=
  if !Address.isWellFormed url then .error .noDatabase
  else if settings.maxConnections = 0 || endlessTimeout ≤ settings.connectTimeout then
    .error .badPool
  else if settings.connectTimeout = 0 then .error .noDatabase
  else
    match database surroundings url with
    | some rows => .ok (.table rows (surroundings.complaint url))
    | none => .error .noDatabase

def registry (surroundings : Surroundings) (settings : Settings) : Except Fault Registry :=
  match settings.databaseUrl with
  | none => .ok (.connections [])
  | some url => sharedRegistry surroundings settings url

/-- The security service at an address, if the address is one. -/
def securityService (surroundings : Surroundings) (url : String) : Except Fault SecurityService :=
  match Address.ofText? url with
  | some address => .ok ⟨address, surroundings.security address⟩
  | none => .error (.badSecurityUrl url)

def permissions (surroundings : Surroundings) (settings : Settings) :
    Except Fault PermissionSource :=
  match settings.securityServiceUrl, settings.permissionsFile with
  | some url, _ => (securityService surroundings url).map .remote
  | none, some path =>
    match PermissionFile.read (surroundings.file path) with
    | .ok grants => .ok (.ofGrants grants)
    | .error fault => .error (.permissionFile path fault)
  | none, none => .ok (.ofGrants [])

/-- Start with settings: the registry first, then the permissions. -/
def start (surroundings : Surroundings) (settings : Settings) : Except Fault Deployment := do
  let registry ← registry surroundings settings
  let permissions ← permissions surroundings settings
  return ⟨settings, ⟨registry, permissions, settings.upload⟩⟩

/-- Start with the variables that hold the settings. -/
def ofVariables (surroundings : Surroundings) (lookup : Lookup) : Except Fault Deployment :=
  match Settings.load lookup with
  | .ok settings => start surroundings settings
  | .error fault => .error (.settings fault)

end Deployment

end UploadGate
