import UploadGate.Form.Kind
import UploadGate.Json.Decode
import UploadGate.Json.Printer
import UploadGate.Text.Blank
import UploadGate.Text.Split

/-! # Settings of the upload forms

Which file extensions each form takes in, and which values its null list holds unless told
otherwise. A form takes in an extension that is both its own and among those allowed for all forms.
-/

namespace UploadGate

structure UploadSettings where
  /-- The extensions that any form may take in. -/
  allowed : NameSet
  csv : NameSet
  excel : NameSet
  columnar : NameSet
  /-- The default of the null lists, in its order. -/
  nullNames : List String
deriving DecidableEq

namespace UploadSettings

variable (settings : UploadSettings)

/-- The extensions that are a form's own. -/
def own : Form.Kind → NameSet
  | .csv => settings.csv
  | .excel => settings.excel
  | .columnar => settings.columnar

/-- The extensions that a form takes in. -/
def extensionsFor (kind : Form.Kind) : NameSet := settings.allowed ∩ settings.own kind

def ownDefault : Form.Kind → NameSet
  | .csv => .ofList ["csv", "tsv", "txt"]
  | .excel => .ofList ["xls", "xlsx"]
  | .columnar => .ofList ["parquet", "zip"]

def defaultNullNames : List String :=
  ["", "#N/A", "#N/A N/A", "#NA", "-1.#IND", "-1.#QNAN", "-NaN", "-nan", "1.#IND", "1.#QNAN",
    "<NA>", "N/A", "NA", "NULL", "NaN", "None", "n/a", "nan", "null"]

/-- An extension as it is compared: without white space around it and without dots before it, in
lower case. -/
def normalExtension (piece : List Char) : String :=
  Text.lower (.ofList ((Text.strip Text.isBlank piece).dropWhile (· = '.')))

/-- The extensions between the commas of a text, empty ones left out. -/
def readExtensions (text : String) : NameSet :=
  .ofList (((Text.split ',' text.toList).map normalExtension).filter (· ≠ ""))

/-- The settings that given texts make, none of which is blank. Without a text for all forms, they
may take in every extension that is a form's own. -/
def ofTexts (own : Form.Kind → Option String) (allowed : Option String)
    (nullNames : List String) : UploadSettings :=
  let extensions kind := (own kind).elim (ownDefault kind) readExtensions
  { allowed := allowed.elim (extensions .csv ∪ extensions .excel ∪ extensions .columnar)
      readExtensions
    csv := extensions .csv
    excel := extensions .excel
    columnar := extensions .columnar
    nullNames }

/-- The settings that hold where no text sets others. -/
def builtIn : UploadSettings := .ofTexts (fun _ => none) none defaultNullNames

/-- A JSON list of strings. -/
def readNullNames? (text : String) : Option (List String) :=
  (Json.decode (Json.Decode.list Json.Decode.string) text).toOption

def toJson : Json.Value :=
  .ofMembers
    [("allowed_extensions", .strings settings.allowed.toList),
      ("csv_extensions", .strings settings.csv.toList),
      ("excel_extensions", .strings settings.excel.toList),
      ("columnar_extensions", .strings settings.columnar.toList),
      ("csv_default_na_names", .strings settings.nullNames),
      ("csv_allowed", .strings (settings.extensionsFor .csv).toList),
      ("excel_allowed", .strings (settings.extensionsFor .excel).toList),
      ("columnar_allowed", .strings (settings.extensionsFor .columnar).toList)]

end UploadSettings

end UploadGate
