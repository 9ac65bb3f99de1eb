import UploadGate.Form.Basic
import UploadGate.Settings.Upload

/-! # The upload forms

The tables of the three forms. They share the rows for the table's name, the database, the schema
and what to do if the table is there already. The settings decide which file extensions a form
takes in, and the default of its null list.
-/

namespace UploadGate.Form

/-- A name without a dot, which would part a schema from a table. -/
def tablePattern : Pattern := ⟨"^[^\\.]+$", Pattern.avoids ['.']⟩

/-- The pattern of a table's name is what its text says. -/
theorem ofText_tablePattern :
    Pattern.ofText Pattern.exclusionRules tablePattern.text = .ok tablePattern := by
  have hexcluded : Pattern.excluded? tablePattern.text = some ['.'] := by decide
  rw [Pattern.ofText, Pattern.exclusionRules, hexcluded]
  rfl

def tableName (name description : String) : Field where
  name
  label := "Table Name"
  kind := .input .text
  description := some description
  validators := [.dataRequired, .pattern tablePattern "Table name cannot contain a schema"]

def database (description : Option String) : Field where
  name := "database"
  label := "Database"
  kind := .input .database
  description

def fileUpload (name label : String) (kind : FieldKind) (description : String)
    (presence : Validator) (extensions : NameSet) : Field where
  name
  label
  kind
  description := some description
  validators := [presence, .fileAllowed extensions]

def optionalText (name label description : String) : Field where
  name
  label
  kind := .input .text
  description := some description
  validators := [.optional]

/-- A number of rows or columns, or nothing. -/
def optionalCount (name label description : String) : Field where
  name
  label
  kind := .input .integer
  description := some description
  validators := [.optional, .atLeast 0]

def flag (name label description : String) : Field where
  name
  label
  kind := .input .boolean
  description := some description

def ifExists (label description : String) : Field where
  name := "if_exists"
  label
  kind := .input .select
  description := some description
  validators := [.dataRequired]
  options := [⟨"fail", "Fail"⟩, ⟨"replace", "Replace"⟩, ⟨"append", "Append"⟩]

def decimal (description : String) : Field where
  name := "decimal"
  label := "Decimal Character"
  kind := .input .text
  description := some description
  validators := [.optional, .exactLength 1]
  default := some (.text ".")

def nullValues (label description : String) (names : List String) : Field where
  name := "null_values"
  label
  kind := .input .jsonList
  description := some description
  default := some (.json (names.map .string))

def parseDates (label description : String) : Field where
  name := "parse_dates"
  label
  kind := .input .commaList
  description := some description

/-- The columns that should be read, or nothing. -/
def columnNames (name label description : String) : Field where
  name
  label
  kind := .input .jsonList
  description := some description
  validators := [.optional]

def delimiter : Field where
  name := "delimiter"
  label := "Delimiter"
  kind := .input .select
  description := some "Enter a delimiter for this data"
  validators := [.dataRequired]
  default := some (.text ",")
  options := [⟨",", ","⟩, ⟨".", "."⟩, ⟨"other", "Other"⟩]

def otherDelimiter : Field where
  name := "otherInput"
  label := "Other"
  kind := .input .text

def csvFields (settings : UploadSettings) : List Field :=
  [fileUpload "csv_file" "CSV Upload" .file "Select a file to be uploaded to the database"
      .fileRequired (settings.extensionsFor .csv),
    tableName "table_name" "Name of table to be created with CSV file",
    database (some "Select a database to upload the file to"),
    optionalText "dtype" "Column Data Types"
      ("A dictionary with column names and their data types if you need to change the " ++
        "defaults. Example: \x7b\"user_id\":\"integer\"\x7d"),
    optionalText "schema" "Schema" "Select a schema if the database supports this",
    delimiter,
    otherDelimiter,
    ifExists "If Table Already Exists" "What should happen if the table already exists",
    flag "skip_initial_space" "Skip Initial Space" "Skip spaces after delimiter",
    flag "skip_blank_lines" "Skip Blank Lines"
      "Skip blank lines rather than interpreting them as Not A Number values",
    parseDates "Columns To Be Parsed as Dates"
      "A comma separated list of columns that should be parsed as dates",
    flag "infer_datetime_format" "Interpret Datetime Format Automatically"
      "Interpret the datetime format automatically",
    decimal "Character to interpret as decimal point",
    nullValues "Null Values"
      ("Json list of the values that should be treated as null. Examples: [\"\"] for empty " ++
        "strings, [\"None\", \"N/A\"], [\"nan\", \"null\"]. Warning: Hive database supports " ++
        "only a single value")
      settings.nullNames,
    optionalCount "index_col" "Index Column"
      "Column to use as the row labels of the dataframe. Leave empty if no index column",
    flag "dataframe_index" "Dataframe Index" "Write dataframe index as a column",
    optionalText "index_label" "Column Label(s)"
      ("Column label for index column(s). If None is given and Dataframe Index is checked, " ++
        "Index Names are used"),
    columnNames "use_cols" "Columns To Read" "Json list of the column names that should be read",
    flag "overwrite_duplicate" "Overwrite Duplicate Columns"
      "If duplicate columns are not overridden, they will be presented as \"X.1, X.2 ...X.x\"",
    optionalCount "header" "Header Row"
      ("Row containing the headers to use as column names (0 is first line of data). Leave " ++
        "empty if there is no header row"),
    optionalCount "nrows" "Rows to Read" "Number of rows of file to read",
    optionalCount "skiprows" "Skip Rows" "Number of rows to skip at start of file"]

/-- What the forms other than the one for CSV files say about an existing table. -/
def ifExistsDetailed : Field :=
  ifExists "Table Exists"
    ("If table exists do one of the following: Fail (do nothing), Replace (drop and recreate " ++
      "table) or Append (insert data).")

def schemaDetailed : Field :=
  optionalText "schema" "Schema" "Specify a schema (if database flavor supports this)."

def frameIndex : Field := flag "index" "Dataframe Index" "Write dataframe index as a column."

def indexLabelDetailed : Field :=
  optionalText "index_label" "Column Label(s)"
    ("Column label for index column(s). If None is given and Dataframe Index is True, Index " ++
      "Names are used.")

def excelFields (settings : UploadSettings) : List Field :=
  [tableName "name" "Name of table to be created from excel data.",
    fileUpload "excel_file" "Excel File" .file "Select a Excel file to be uploaded to a database."
      .fileRequired (settings.extensionsFor .excel),
    optionalText "sheet_name" "Sheet Name"
      "Strings used for sheet names (default is the first sheet).",
    database none,
    schemaDetailed,
    ifExistsDetailed,
    optionalCount "header" "Header Row"
      ("Row containing the headers to use as column names (0 is first line of data). Leave " ++
        "empty if there is no header row."),
    optionalCount "index_col" "Index Column"
      "Column to use as the row labels of the dataframe. Leave empty if no index column.",
    flag "mangle_dupe_cols" "Mangle Duplicate Columns"
      "Specify duplicate columns as \"X.0, X.1\".",
    optionalCount "skiprows" "Skip Rows" "Number of rows to skip at start of file.",
    optionalCount "nrows" "Rows to Read" "Number of rows of file to read.",
    parseDates "Parse Dates" "A comma separated list of columns that should be parsed as dates.",
    decimal "Character to interpret as decimal point.",
    frameIndex,
    indexLabelDetailed,
    nullValues "Null values"
      ("Json list of the values that should be treated as null. Examples: [\"\"], [\"None\", " ++
        "\"N/A\"], [\"nan\", \"null\"]. Warning: Hive database supports only single value. Use " ++
        "[\"\"] for empty string.")
      settings.nullNames]

def columnarFields (settings : UploadSettings) : List Field :=
  [tableName "name" "Name of table to be created from columnar data.",
    fileUpload "columnar_file" "Columnar File" .files
      "Select a Columnar file to be uploaded to a database."
      .dataRequired (settings.extensionsFor .columnar),
    database none,
    schemaDetailed,
    ifExistsDetailed,
    columnNames "usecols" "Use Columns"
      ("Json list of the column names that should be read. If not None, only these columns will " ++
        "be read from the file."),
    frameIndex,
    indexLabelDetailed]

def catalogFields (settings : UploadSettings) : Kind → List Field
  | .csv => csvFields settings
  | .excel => excelFields settings
  | .columnar => columnarFields settings

/-- The form of a kind. -/
def catalog (settings : UploadSettings) (kind : Kind) : Form := ⟨kind, catalogFields settings kind⟩

/-- An entry of the list of forms. -/
structure Summary where
  kind : Kind

def Summary.toJson (summary : Summary) : Json.Value :=
  .ofMembers
    [("kind", .string summary.kind.slug), ("title", .string summary.kind.title)]

def summaries : List Summary := Kind.all.map .mk

end UploadGate.Form
