import UploadGate.Proofs.Form.Draft
import UploadGate.Proofs.Form.Rows

/-! # Filling in a form

What a form of the catalog asks for, field by field. Every row of the form's table asks for its own
field alone; in the form for CSV files a delimiter that is to be typed in has to be there besides.
-/

namespace UploadGate.Form

/-! ## The tables -/

namespace Kind

def tableField : Kind → String
  | csv => "table_name"
  | excel | columnar => "name"

def fileField : Kind → String
  | csv => "csv_file"
  | excel => "excel_file"
  | columnar => "columnar_file"

/-- The fields that hold a number of rows or columns, or nothing. -/
def countFields : Kind → List String
  | csv => ["index_col", "header", "nrows", "skiprows"]
  | excel => ["header", "index_col", "skiprows", "nrows"]
  | columnar => []

/-- The fields that list the columns to be read. -/
def columnsFields : Kind → List String
  | csv => ["use_cols"]
  | excel => []
  | columnar => ["usecols"]

/-- The names of all fields, in the order of the table. -/
def fieldNames : Kind → List String
  | csv => ["csv_file", "table_name", "database", "dtype", "schema", "delimiter", "otherInput",
      "if_exists", "skip_initial_space", "skip_blank_lines", "parse_dates", "infer_datetime_format",
      "decimal", "null_values", "index_col", "dataframe_index", "index_label", "use_cols",
      "overwrite_duplicate", "header", "nrows", "skiprows"]
  | excel => ["name", "excel_file", "sheet_name", "database", "schema", "if_exists", "header",
      "index_col", "mangle_dupe_cols", "skiprows", "nrows", "parse_dates", "decimal", "index",
      "index_label", "null_values"]
  | columnar => ["name", "columnar_file", "database", "schema", "if_exists", "usecols", "index",
      "index_label"]

end Kind

variable {settings : UploadSettings} {kind : Kind} {databases : List Choice}
  {submission : Submission}

theorem map_name_catalogFields :
    (catalogFields settings kind).map Field.name = kind.fieldNames := by
  cases kind <;> rfl

theorem nodup_map_name_catalog : ((catalog settings kind).fields.map Field.name).Nodup := by
  have hnames : (catalog settings kind).fields.map Field.name = kind.fieldNames :=
    map_name_catalogFields
  rw [hnames]
  cases kind <;> decide

/-- The rows of which the tables are made. -/
inductive IsRow (settings : UploadSettings) (kind : Kind) : Field → Prop
  | tableName (name description : String) : IsRow settings kind (tableName name description)
  | database (description : Option String) : IsRow settings kind (database description)
  | file (name label description : String) : IsRow settings kind
    (fileUpload name label .file description .fileRequired (settings.extensionsFor kind))
  | files (name label description : String) : IsRow settings kind
    (fileUpload name label .files description .dataRequired (settings.extensionsFor kind))
  | optionalText (name label description : String) :
    IsRow settings kind (optionalText name label description)
  | optionalCount (name label description : String) :
    IsRow settings kind (optionalCount name label description)
  | flag (name label description : String) : IsRow settings kind (flag name label description)
  | ifExists (label description : String) : IsRow settings kind (ifExists label description)
  | delimiter : IsRow settings kind delimiter
  | otherDelimiter : IsRow settings kind otherDelimiter
  | decimal (description : String) : IsRow settings kind (decimal description)
  | parseDates (label description : String) : IsRow settings kind (parseDates label description)
  | nullValues (label description : String) :
    IsRow settings kind (nullValues label description settings.nullNames)
  | columnNames (name label description : String) :
    IsRow settings kind (columnNames name label description)

theorem isRow_of_mem_catalog {field : Field} (hmem : field ∈ (catalog settings kind).fields) :
    IsRow settings kind field := by
  have hall : ∀ row ∈ catalogFields settings kind, IsRow settings kind row := by
    cases kind with
    | csv =>
      simp only [catalogFields, csvFields, List.forall_mem_cons, IsRow.tableName, IsRow.database,
        IsRow.file, IsRow.optionalText, IsRow.optionalCount, IsRow.flag, IsRow.ifExists,
        IsRow.delimiter, IsRow.otherDelimiter, IsRow.decimal, IsRow.parseDates, IsRow.nullValues,
        IsRow.columnNames, true_and]
      simp
    | excel =>
      simp only [catalogFields, excelFields, schemaDetailed, ifExistsDetailed, frameIndex,
        indexLabelDetailed, List.forall_mem_cons, IsRow.tableName, IsRow.database, IsRow.file,
        IsRow.optionalText, IsRow.optionalCount, IsRow.flag, IsRow.ifExists, IsRow.decimal,
        IsRow.parseDates, IsRow.nullValues, true_and]
      simp
    | columnar =>
      simp only [catalogFields, columnarFields, schemaDetailed, ifExistsDetailed, frameIndex,
        indexLabelDetailed, List.forall_mem_cons, IsRow.tableName, IsRow.database, IsRow.files,
        IsRow.optionalText, IsRow.flag, IsRow.ifExists, IsRow.columnNames, true_and]
      simp
  exact hall field hmem

theorem exists_field?_database (settings : UploadSettings) (kind : Kind) :
    ∃ description, (catalog settings kind).field? "database" = some (database description) := by
  cases kind <;> exact ⟨_, rfl⟩

theorem exists_field?_schema (settings : UploadSettings) (kind : Kind) :
    ∃ label description, (catalog settings kind).field? "schema" =
      some (optionalText "schema" label description) := by
  cases kind <;> exact ⟨_, _, rfl⟩

/-! ## Rows of a submission -/

/-- A field finds nothing wrong with a submission. -/
def IsClean (databases : List Choice) (submission : Submission) (field : Field) : Prop :=
  ∃ value, cleanField databases submission field = .ok value

/-- Nothing was typed in, or a numeral of an integer that is not negative. -/
def CountOrBlank (raw : Option String) : Prop :=
  LeftBlank raw ∨ ∃ text n, raw = some text ∧ IsInteger text n ∧ 0 ≤ n

/-- Nothing was typed in, or the text of a JSON array. -/
def ArrayOrBlank (raw : Option String) : Prop :=
  LeftBlank raw ∨ ∃ text items, raw = some text ∧ IsJsonArray text items

/-- Nothing was typed in, or a single character. -/
def CharacterOrBlank (raw : Option String) : Prop :=
  LeftBlank raw ∨ ∃ text, raw = some text ∧ text.length = 1

section Rows

variable {name label description : String}

theorem isClean_tableName_iff :
    IsClean databases submission (tableName name description) ↔
      ∃ text, submission.fields.get? name = some text ∧ Text.blank text = false ∧
        '.' ∉ text.toList := by
  simp only [IsClean, cleanField, clean_tableName_eq_ok_iff, name_tableName, existsAndEq, and_true]

theorem isClean_database_iff {description : Option String} :
    IsClean databases submission (database description) ↔
      ∃ text id, submission.fields.get? "database" = some text ∧ IsInteger text id ∧
        id ∈ databases.map Choice.id := by
  simp only [IsClean, cleanField, clean_database_eq_ok_iff, name_database, existsAndEq, and_true]

theorem isClean_ifExists_iff :
    IsClean databases submission (ifExists label description) ↔
      ∃ text ∈ ["fail", "replace", "append"], submission.fields.get? "if_exists" = some text := by
  simp only [IsClean, cleanField, clean_ifExists_eq_ok_iff, name_ifExists, existsAndEq, and_true]

theorem isClean_fileUpload_file_iff {extensions : NameSet} :
    IsClean databases submission
        (fileUpload name label .file description .fileRequired extensions) ↔
      ∃ filename, (submission.filesFor name).head? = some filename ∧
        ∃ extension ∈ extensions, HasExtension filename extension := by
  simp only [IsClean, cleanField, clean_fileUpload_file_eq_ok_iff, name_fileUpload, existsAndEq,
    and_true]

theorem isClean_fileUpload_files_iff {extensions : NameSet} :
    IsClean databases submission
        (fileUpload name label .files description .dataRequired extensions) ↔
      submission.filesFor name ≠ [] ∧ ∀ filename ∈ submission.filesFor name,
        ∃ extension ∈ extensions, HasExtension filename extension := by
  simp only [IsClean, cleanField, clean_fileUpload_files_eq_ok_iff, name_fileUpload, existsAndEq,
    and_true]

theorem isClean_decimal_iff :
    IsClean databases submission (decimal description) ↔
      CharacterOrBlank (submission.fields.get? "decimal") := by
  -- A missing text and a blank one have different values, but both are clean.
  simp only [IsClean, cleanField, clean_decimal_eq_ok_iff, name_decimal, CharacterOrBlank]
  cases submission.fields.get? "decimal" with
  | none => simp
  | some text => cases hblank : Text.blank text <;> simp [hblank]

theorem isClean_nullValues_iff {names : List String} :
    IsClean databases submission (nullValues label description names) ↔
      ArrayOrBlank (submission.fields.get? "null_values") := by
  simp only [IsClean, cleanField, clean_nullValues_eq_ok_iff, name_nullValues, ArrayOrBlank]
  cases submission.fields.get? "null_values" with
  | none => simp
  | some text => cases hblank : Text.blank text <;> simp [hblank]

theorem isClean_columnNames_iff :
    IsClean databases submission (columnNames name label description) ↔
      ArrayOrBlank (submission.fields.get? name) := by
  simp only [IsClean, cleanField, clean_columnNames_eq_ok_iff, name_columnNames, ArrayOrBlank]
  cases submission.fields.get? name with
  | none => simp
  | some text => cases hblank : Text.blank text <;> simp [hblank]

theorem isClean_optionalCount_iff :
    IsClean databases submission (optionalCount name label description) ↔
      CountOrBlank (submission.fields.get? name) := by
  simp only [IsClean, cleanField, clean_optionalCount_eq_ok_iff, name_optionalCount, CountOrBlank,
    exists_or, existsAndEq, and_true]

theorem isClean_delimiter_iff :
    IsClean databases submission delimiter ↔
      submission.fields.get? "delimiter" = none ∨
        ∃ text ∈ [",", ".", "other"], submission.fields.get? "delimiter" = some text := by
  simp only [IsClean, cleanField, clean_delimiter_eq_ok_iff, name_delimiter, exists_or,
    existsAndEq, and_true]

theorem isClean_optionalText :
    IsClean databases submission (optionalText name label description) :=
  exists_clean_optionalText

theorem isClean_flag : IsClean databases submission (flag name label description) :=
  ⟨_, clean_flag⟩

theorem isClean_otherDelimiter : IsClean databases submission otherDelimiter :=
  ⟨_, clean_otherDelimiter⟩

theorem isClean_parseDates : IsClean databases submission (parseDates label description) :=
  exists_clean_parseDates

end Rows

/-! ## Filling in a form -/

/-- The files of a form: those of the form for columnar files all count, else the first one. -/
def TakesFiles (extensions : NameSet) : Kind → List String → Prop
  | .columnar, files =>
    files ≠ [] ∧ ∀ filename ∈ files, ∃ extension ∈ extensions, HasExtension filename extension
  | .csv, files | .excel, files =>
    ∃ filename, files.head? = some filename ∧
      ∃ extension ∈ extensions, HasExtension filename extension

theorem takesFiles_singleton_iff {extensions : NameSet} {filename : String} :
    TakesFiles extensions kind [filename] ↔
      ∃ extension ∈ extensions, HasExtension filename extension := by
  cases kind <;> simp [TakesFiles]

/-- The text that stands for the delimiter "other" is there. -/
def TypesDelimiter (kind : Kind) (submission : Submission) : Prop :=
  kind = .csv → submission.fields.get? "delimiter" = some "other" →
    ∃ text, submission.fields.get? "otherInput" = some text ∧ text ≠ ""

/-- What a form asks of the table's name, the database, an existing table, the files, the decimal
character and the null list. -/
structure FillsKeyFields (settings : UploadSettings) (kind : Kind) (databases : List Choice)
    (submission : Submission) : Prop where
  table : ∃ text, submission.fields.get? kind.tableField = some text ∧
    Text.blank text = false ∧ '.' ∉ text.toList
  database : ∃ text id, submission.fields.get? "database" = some text ∧ IsInteger text id ∧
    id ∈ databases.map Choice.id
  ifExists : ∃ text ∈ ["fail", "replace", "append"],
    submission.fields.get? "if_exists" = some text
  files : TakesFiles (settings.extensionsFor kind) kind (submission.filesFor kind.fileField)
  decimal : kind ≠ .columnar → CharacterOrBlank (submission.fields.get? "decimal")
  nullValues : kind ≠ .columnar → ArrayOrBlank (submission.fields.get? "null_values")

/-- What a form asks of all its fields. -/
structure FillsIn (settings : UploadSettings) (kind : Kind) (databases : List Choice)
    (submission : Submission) : Prop extends
    FillsKeyFields settings kind databases submission where
  counts : ∀ name ∈ kind.countFields, CountOrBlank (submission.fields.get? name)
  columns : ∀ name ∈ kind.columnsFields, ArrayOrBlank (submission.fields.get? name)
  delimiter : kind = .csv → submission.fields.get? "delimiter" = none ∨
    ∃ text ∈ [",", ".", "other"], submission.fields.get? "delimiter" = some text
  typed : TypesDelimiter kind submission

theorem isClean_csvFields_iff :
    (∀ field ∈ csvFields settings, IsClean databases submission field) ∧
        TypesDelimiter .csv submission ↔
      FillsIn settings .csv databases submission := by
  simp only [csvFields, List.forall_mem_cons, isClean_fileUpload_file_iff, isClean_tableName_iff,
    isClean_database_iff, isClean_optionalText, isClean_delimiter_iff, isClean_otherDelimiter,
    isClean_ifExists_iff, isClean_flag, isClean_parseDates, isClean_decimal_iff,
    isClean_nullValues_iff, isClean_optionalCount_iff, isClean_columnNames_iff, true_and]
  constructor
  · rintro ⟨⟨files, table, database, delimiter, ifExists, decimal, nullValues, index, columns,
      header, rows, skipped, -⟩, typed⟩
    have counts : ∀ name ∈ Kind.csv.countFields, CountOrBlank (submission.fields.get? name) := by
      simpa [Kind.countFields] using ⟨index, header, rows, skipped⟩
    exact ⟨⟨table, database, ifExists, files, fun _ => decimal, fun _ => nullValues⟩, counts,
      by simpa [Kind.columnsFields] using columns, fun _ => delimiter, typed⟩
  · rintro ⟨⟨table, database, ifExists, files, decimal, nullValues⟩, counts, columns, delimiter,
      typed⟩
    obtain ⟨index, header, rows, skipped⟩ : CountOrBlank (submission.fields.get? "index_col") ∧
        CountOrBlank (submission.fields.get? "header") ∧
        CountOrBlank (submission.fields.get? "nrows") ∧
        CountOrBlank (submission.fields.get? "skiprows") := by
      simpa [Kind.countFields] using counts
    have columns : ArrayOrBlank (submission.fields.get? "use_cols") := by
      simpa [Kind.columnsFields] using columns
    exact ⟨⟨files, table, database, delimiter rfl, ifExists, decimal (by decide),
      nullValues (by decide), index, columns, header, rows, skipped, by simp⟩, typed⟩

theorem isClean_excelFields_iff :
    (∀ field ∈ excelFields settings, IsClean databases submission field) ∧
        TypesDelimiter .excel submission ↔
      FillsIn settings .excel databases submission := by
  simp only [excelFields, schemaDetailed, ifExistsDetailed, frameIndex, indexLabelDetailed,
    List.forall_mem_cons, isClean_fileUpload_file_iff, isClean_tableName_iff,
    isClean_database_iff, isClean_optionalText, isClean_ifExists_iff, isClean_flag,
    isClean_parseDates, isClean_decimal_iff, isClean_nullValues_iff, isClean_optionalCount_iff,
    true_and]
  constructor
  · rintro ⟨⟨table, files, database, ifExists, header, index, skipped, rows, decimal, nullValues,
      -⟩, typed⟩
    have counts : ∀ name ∈ Kind.excel.countFields,
        CountOrBlank (submission.fields.get? name) := by
      simpa [Kind.countFields] using ⟨header, index, skipped, rows⟩
    exact ⟨⟨table, database, ifExists, files, fun _ => decimal, fun _ => nullValues⟩, counts,
      by simp [Kind.columnsFields], by simp, typed⟩
  · rintro ⟨⟨table, database, ifExists, files, decimal, nullValues⟩, counts, -, -, typed⟩
    obtain ⟨header, index, skipped, rows⟩ : CountOrBlank (submission.fields.get? "header") ∧
        CountOrBlank (submission.fields.get? "index_col") ∧
        CountOrBlank (submission.fields.get? "skiprows") ∧
        CountOrBlank (submission.fields.get? "nrows") := by
      simpa [Kind.countFields] using counts
    exact ⟨⟨table, files, database, ifExists, header, index, skipped, rows, decimal (by decide),
      nullValues (by decide), by simp⟩, typed⟩

theorem isClean_columnarFields_iff :
    (∀ field ∈ columnarFields settings, IsClean databases submission field) ∧
        TypesDelimiter .columnar submission ↔
      FillsIn settings .columnar databases submission := by
  simp only [columnarFields, schemaDetailed, ifExistsDetailed, frameIndex, indexLabelDetailed,
    List.forall_mem_cons, isClean_fileUpload_files_iff, isClean_tableName_iff,
    isClean_database_iff, isClean_optionalText, isClean_ifExists_iff, isClean_flag,
    isClean_columnNames_iff, true_and]
  constructor
  · rintro ⟨⟨table, files, database, ifExists, columns, -⟩, typed⟩
    exact ⟨⟨table, database, ifExists, files, by simp, by simp⟩, by simp [Kind.countFields],
      by simpa [Kind.columnsFields] using columns, by simp, typed⟩
  · rintro ⟨⟨table, database, ifExists, files, -, -⟩, -, columns, -, typed⟩
    have columns : ArrayOrBlank (submission.fields.get? "usecols") := by
      simpa [Kind.columnsFields] using columns
    exact ⟨⟨table, files, database, ifExists, columns, by simp⟩, typed⟩

/-- A submission fills in a form if each row of the form's table is clean and the delimiter that is
to be typed in is there. -/
theorem fillsIn_iff :
    FillsIn settings kind databases submission ↔
      (∀ field ∈ (catalog settings kind).fields, IsClean databases submission field) ∧
        TypesDelimiter kind submission := by
  cases kind with
  | csv => exact isClean_csvFields_iff.symm
  | excel => exact isClean_excelFields_iff.symm
  | columnar => exact isClean_columnarFields_iff.symm

end UploadGate.Form
