import UploadGate.Settings.Upload

/-! # Settings of the service

The settings come from variables, looked up by name. White space around a value is dropped, and a
variable with a blank value counts as unset. The variables are read in a fixed order, and the first
value that cannot be read is the one reported.
-/

namespace UploadGate

/-- The value of a variable, if it is set. -/
abbrev Lookup := String → Option String

inductive Variable where
  | host
  | port
  | databaseUrl
  | maxConnections
  | connectTimeout
  | permissionsFile
  | securityServiceUrl
  /-- The extensions that are a form's own. -/
  | extensions (kind : Form.Kind)
  | allowedExtensions
  | nullNames
deriving DecidableEq

def Variable.name : Variable → String
  | host => "SERVER_HOST"
  | port => "SERVER_PORT"
  | databaseUrl => "DATABASE_URL"
  | maxConnections => "DB_MAX_CONNECTIONS"
  | connectTimeout => "DB_CONNECT_TIMEOUT_SECS"
  | permissionsFile => "PERMISSIONS_FILE"
  | securityServiceUrl => "SECURITY_SERVICE_URL"
  | extensions .csv => "CSV_EXTENSIONS"
  | extensions .excel => "EXCEL_EXTENSIONS"
  | extensions .columnar => "COLUMNAR_EXTENSIONS"
  | allowedExtensions => "ALLOWED_EXTENSIONS"
  | nullNames => "CSV_DEFAULT_NA_NAMES"

/-- The name under which the service answers. -/
def serviceName : String := "upload-service"

structure Settings where
  host : String
  port : Nat
  /-- The database that lists the connections. -/
  databaseUrl : Option String
  maxConnections : Nat
  /-- In seconds. -/
  connectTimeout : Nat
  permissionsFile : Option String
  securityServiceUrl : Option String
  upload : UploadSettings
deriving DecidableEq

namespace Settings

/-- What is wrong with the value of a variable. -/
inductive Fault where
  | notNumber (key : Variable) (text : String)
  | notNullNames
deriving DecidableEq

/-- What is reported, which may end in what a library says of the text that it cannot read. -/
def Fault.message (detail : String) : Fault → String
  | notNumber key text => key.name ++ " has an invalid value: " ++ text
  | notNullNames => Variable.nullNames.name ++ " must be a JSON list of strings: " ++ detail

/-- The value of a variable without the white space around it, unless that leaves nothing. -/
def get (lookup : Lookup) (key : Variable) : Option String :=
  ((lookup key.name).map Text.trim).filter (· ≠ "")

/-- The number that a variable holds, at most the bound. -/
def number (lookup : Lookup) (key : Variable) (bound default : Nat) : Except Fault Nat :=
  match get lookup key with
  | none => .ok default
  | some text =>
    match Numeral.unsigned? bound text.toList with
    | some n => .ok n
    | none => .error (.notNumber key text)

/-- The null names that are set, or the default ones. -/
def nullNames (lookup : Lookup) : Except Fault (List String) :=
  match get lookup .nullNames with
  | none => .ok UploadSettings.defaultNullNames
  | some text =>
    match UploadSettings.readNullNames? text with
    | some names => .ok names
    | none => .error .notNullNames

/-- An address without the slashes at its end. -/
def withoutSlashes (url : String) : String := .ofList (Text.dropEndWhile (· = '/') url.toList)

/-- Read the settings from the variables. -/
def load (lookup : Lookup) : Except Fault Settings := do
  let port ← number lookup .port 65535 8082
  let maxConnections ← number lookup .maxConnections 4294967295 5
  let connectTimeout ← number lookup .connectTimeout 18446744073709551615 10
  let nullNames ← nullNames lookup
  return {
    host := (get lookup .host).getD "0.0.0.0"
    port
    databaseUrl := get lookup .databaseUrl
    maxConnections
    connectTimeout
    permissionsFile := get lookup .permissionsFile
    securityServiceUrl := (get lookup .securityServiceUrl).map withoutSlashes
    upload := .ofTexts (get lookup <| .extensions ·) (get lookup .allowedExtensions) nullNames }

/-- The timeout is written as a text, since a number of 64 bits without sign may be too large. -/
def toJson (settings : Settings) : Json.Value :=
  .ofMembers
    [("service_name", .string serviceName),
      ("host", .string settings.host),
      ("port", .integer settings.port),
      ("database_url", .ofOption .string settings.databaseUrl),
      ("max_connections", .integer settings.maxConnections),
      ("connect_timeout_secs", .string (Numeral.text settings.connectTimeout)),
      ("permissions_file", .ofOption .string settings.permissionsFile),
      ("security_service_url", .ofOption .string settings.securityServiceUrl),
      ("upload", settings.upload.toJson)]

end Settings

end UploadGate
