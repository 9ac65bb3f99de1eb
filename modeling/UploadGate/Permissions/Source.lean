import UploadGate.Address.Basic
import UploadGate.Permissions.Basic
import UploadGate.Reply.Envelope
import UploadGate.Reply.Status

/-! # Sources of permissions

A user's permissions come from a table of grants, or from a security service that is asked for them
by name. The table knows nothing of a user without a grant, who gets an empty snapshot, as does one
whom the service does not find. Every other reply of the service than a success with data is a
fault. The snapshot is always the asked user's own, whatever name it came under.
-/

namespace UploadGate

/-- What comes back from a security service. -/
structure SecurityReply where
  status : Nat
  /-- The body, whose bytes are taken as UTF-8. -/
  body : String

/-- A security service, and what comes back to a request for a target. A reply that redirects is
followed, up to ten times in a row, and what comes back is the reply at the end. Nothing comes back
if the service cannot be reached, nor if there are more redirections. -/
structure SecurityService where
  address : Address
  respond : String → Option SecurityReply

inductive PermissionSource where
  | grants (table : NameTable Permissions)
  | remote (service : SecurityService)

/-- Why a user's permissions are not known. -/
inductive LookupFault where
  | unreachable
  | refused (status : Nat)
  | malformed
  | noData
deriving DecidableEq

/-- What is reported, which may end in what a library says of the link or of the body. -/
def LookupFault.message (detail : String) : LookupFault → String
  | unreachable => "无法连接到安全服务: " ++ detail
  | refused status => "安全服务返回 HTTP " ++ Status.text status
  | malformed => "安全服务返回无效响应: " ++ detail
  | noData => "安全服务未返回权限数据"

def LookupFault.toError (detail : String) (fault : LookupFault) : ServiceError :=
  .externalService (fault.message detail)

namespace SecurityService

/-- The target of the request for a user's permissions. -/
def target (service : SecurityService) (user : String) : String :=
  (((service.address.withoutSlash.child "internal").child "permissions").child user).target

/-- A user's permissions from the body of a success. -/
def readBody (user body : String) : Except LookupFault Permissions :=
  match Json.decode (Envelope.decoder Permissions.decoder) body with
  | .error _ => .error .malformed
  | .ok envelope =>
    match envelope.data with
    | none => .error .noData
    | some permissions => .ok { permissions with username := user }

/-- A user's permissions from a reply. -/
def readReply (user : String) (reply : SecurityReply) : Except LookupFault Permissions :=
  if reply.status = 404 then .ok (.none user)
  else if Status.isSuccess reply.status then readBody user reply.body
  else .error (.refused reply.status)

def lookup (service : SecurityService) (user : String) : Except LookupFault Permissions :=
  match service.respond (service.target user) with
  | none => .error .unreachable
  | some reply => readReply user reply

end SecurityService

namespace PermissionSource

/-- The source of some grants, of which the last of a user counts. -/
def ofGrants (grants : List Permissions) : PermissionSource :=
  .grants (.ofList (grants.map fun permissions => (permissions.username, permissions)))

/-- The permissions of a user. -/
def lookup : PermissionSource → String → Except LookupFault Permissions
  | grants table, user => .ok ((table.get? user).getD (.none user))
  | remote service, user => service.lookup user

end PermissionSource

end UploadGate
