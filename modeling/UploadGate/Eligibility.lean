import UploadGate.Permissions.Basic

/-! # Which connections take a user's uploads

A connection is eligible for a user when its flag allows uploads, its engine can take them in, and
the user has full access to it or may access one of the schemas to which its uploads are restricted.
Without a snapshot of the user's permissions there is no access. An upload into an eligible
connection must then name one of the restricted schemas, or, if uploads are not restricted, come
from a user with full access.
-/

namespace UploadGate

variable (snapshot : Option Permissions)

def hasFullAccess (connection : Connection) : Bool :=
  snapshot.any (·.hasFullAccess connection)

/-- Those of some schemas of a connection that the user may access. -/
def accessibleSchemas (connection : Connection) (schemas : NameSet) : NameSet :=
  match snapshot with
  | some permissions => permissions.accessibleSchemas connection schemas
  | none => ∅

namespace Connection

/-- Whether the engine of a connection can take in uploads, whatever the flag says. -/
def engineAllowsUpload (connection : Connection) : Bool := connection.engine.supportsUpload

/-- Whether the user has full access, or access to one of the schemas for uploads. Without full
access, a connection that restricts nothing offers no schema. -/
def offersSchema (connection : Connection) : Bool :=
  hasFullAccess snapshot connection ||
    (!connection.schemas.isEmpty &&
      !(accessibleSchemas snapshot connection connection.schemas).isEmpty)

def isEligible (connection : Connection) : Bool :=
  connection.allowsUpload && connection.engineAllowsUpload && connection.offersSchema snapshot

/-- Whether an upload may go into a schema of the connection. -/
def allowsSchema (connection : Connection) (schema : Option String) : Bool :=
  connection.allowsUpload &&
    if connection.schemas.isEmpty then hasFullAccess snapshot connection
    else schema.any (· ∈ connection.schemas)

end Connection

/-- The eligible connections, in their order. -/
def eligibleConnections (connections : List Connection) : List Connection :=
  connections.filter (·.isEligible snapshot)

end UploadGate
