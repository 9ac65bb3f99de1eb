import UploadGate.Text.Blank
import UploadGate.Text.Lowercase
import UploadGate.Text.Split

/-! # Database engines

An engine is known by its backend name, the part of a connection URI before the driver and the
address. Names are compared in lower case without the white space around them, and a few engines go
by two names.
-/

namespace UploadGate

inductive Engine where
  | postgresql
  | mysql
  | sqlite
  | hive
  | presto
  | trino
  /-- Spreadsheets, which their driver can only read. -/
  | gsheets
  | clickHouse
  /-- Any other engine, under its backend name in lower case. -/
  | other (backend : String)
deriving DecidableEq

namespace Engine

/-- The engine of a backend name in lower case without white space around it. -/
def ofNormalName (name : String) : Engine :=
  if name = "postgresql" ∨ name = "postgres" then postgresql
  else if name = "mysql" then mysql
  else if name = "sqlite" then sqlite
  else if name = "hive" then hive
  else if name = "presto" then presto
  else if name = "trino" then trino
  else if name = "gsheets" then gsheets
  else if name = "clickhouse" ∨ name = "clickhousedb" then clickHouse
  else other name

/-- The engine of a backend name. -/
def ofBackend (name : String) : Engine := ofNormalName (Text.lower (Text.trim name))

/-- The engine of a connection URI: backend, an optional driver after a plus sign, and the address
after a colon and two slashes. -/
def ofUri (uri : String) : Engine :=
  ofBackend (.ofList (Text.before ['+'] (Text.before [':', '/', '/'] uri.toList)))

/-- The backend name that stands for the engine. -/
def backend : Engine → String
  | postgresql => "postgresql"
  | mysql => "mysql"
  | sqlite => "sqlite"
  | hive => "hive"
  | presto => "presto"
  | trino => "trino"
  | gsheets => "gsheets"
  | clickHouse => "clickhouse"
  | other name => name

/-- Whether the engine's driver can take in uploaded files. -/
def supportsUpload : Engine → Bool
  | gsheets | clickHouse => false
  | _ => true

end Engine

end UploadGate
