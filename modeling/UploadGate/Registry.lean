import UploadGate.Connection.Extra

/-! # Registries of connections

A registry lists the connections whose flag allows uploads. One kind holds connections and lists
them in its own order. The other reads a table of a database, whose rows it lists by name and then
by id. A column of such a table may hold anything, and may hold nothing. The listing fails as a
whole if the table is missing or if a row that it would list holds something other than an id, a
name, an address and an extra document.
-/

namespace UploadGate

/-- What a row holds in a column. -/
inductive Cell where
  | null
  | integer (n : Int64)
  /-- A number of double precision, by its bits. -/
  | real (bits : UInt64)
  | text (s : String)
  /-- Bytes that are stored as a text, but are none in UTF-8. -/
  | brokenText (bytes : List UInt8)
  | blob (bytes : List UInt8)
deriving DecidableEq

/-- A row of the table of connections. -/
structure Row where
  id : Cell
  name : Cell
  uri : Cell
  /-- The number one if the connection allows uploads; everything else, or nothing, forbids them. -/
  flag : Cell
  extra : Cell
deriving DecidableEq

inductive Registry where
  | connections (list : List Connection)
  /-- The rows of the table in any order, if the table is there, and what the database says if they
  cannot be listed. -/
  | table (rows : Option (List Row)) (complaint : String)

namespace Cell

/-- The bits of the number one. -/
def oneBits : UInt64 := 0x3ff0000000000000

/-- Whether a cell holds the number one, as an integer or with a point. -/
def isOne : Cell → Bool
  | integer n => n = 1
  | real bits => bits = oneBits
  | _ => false

def integer? : Cell → Option Int
  | integer n => some n.toInt
  | _ => none

def text? : Cell → Option String
  | text s => some s
  | _ => none

/-- A text that may be missing, which anything else than a text or nothing is not. -/
def optionalText? : Cell → Option (Option String)
  | null => some none
  | text s => some (some s)
  | _ => none

end Cell

namespace Row

def allowsUpload (row : Row) : Bool := row.flag.isOne

/-- The connection of a row that allows uploads. -/
def connection? (row : Row) : Option Connection := do
  return {
    id := ← row.id.integer?
    name := ← row.name.text?
    engine := .ofUri (← row.uri.text?)
    allowsUpload := true
    schemas := Connection.schemasOfExtra (← row.extra.optionalText?) }

end Row

namespace Connection

/-- The order of connections by name and then by id. -/
def before (first second : Connection) : Bool :=
  first.name < second.name || (first.name = second.name && first.id ≤ second.id)

end Connection

namespace Registry

/-- The connections of a table cannot be listed. -/
structure Fault where
  /-- What the database says of it. -/
  complaint : String
deriving DecidableEq

def Fault.message (fault : Fault) : String :=
  "Failed to list upload databases: " ++ fault.complaint

/-- The connections whose flag allows uploads. -/
def uploadAllowed : Registry → Except Fault (List Connection)
  | .connections list => .ok (list.filter (·.allowsUpload))
  | .table none complaint => .error ⟨complaint⟩
  | .table (some rows) complaint =>
    match (rows.filter Row.allowsUpload).mapM Row.connection? with
    | some found => .ok (found.mergeSort Connection.before)
    | none => .error ⟨complaint⟩

end Registry

end UploadGate
