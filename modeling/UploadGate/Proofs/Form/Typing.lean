import UploadGate.Proofs.Form.Acceptance

/-! # The values of an accepted upload

An upload holds a value for every field of its form and for nothing else. Whether a value is a
default, stands for a blank text, was read from the raw text or, for the delimiter, was taken from
another field, it is one that the kind of its field admits.
-/

namespace UploadGate.Form

/-- The values that a field of a kind can have, where files need one of the allowed extensions and
the databases are those on offer. -/
inductive FieldKind.Admits (allowed : NameSet) (databases : List Choice) :
    FieldKind → Value → Prop
  | file {filename : String} (hallowed : ∃ extension ∈ allowed, HasExtension filename extension) :
    Admits allowed databases .file (.list [filename])
  | files {filenames : List String} (hne : filenames ≠ [])
    (hallowed : ∀ filename ∈ filenames, ∃ extension ∈ allowed, HasExtension filename extension) :
    Admits allowed databases .files (.list filenames)
  | noText : Admits allowed databases (.input .text) .null
  | text (s : String) : Admits allowed databases (.input .text) (.text s)
  | select (s : String) : Admits allowed databases (.input .select) (.text s)
  | database {id : Int} (hlisted : id ∈ databases.map Choice.id) :
    Admits allowed databases (.input .database) (.integer id)
  | boolean (b : Bool) : Admits allowed databases (.input .boolean) (.bool b)
  | noInteger : Admits allowed databases (.input .integer) .null
  | integer {n : Int} (hcount : 0 ≤ n) : Admits allowed databases (.input .integer) (.integer n)
  | noItems : Admits allowed databases (.input .commaList) .null
  | items {items : List String} (hne : items ≠ []) (hitems : ∀ item ∈ items, IsItem item) :
    Admits allowed databases (.input .commaList) (.list items)
  | noArray : Admits allowed databases (.input .jsonList) .null
  | array (items : List Json.Value) : Admits allowed databases (.input .jsonList) (.json items)

/-! ## Rows -/

/-- Whatever a field takes in, it takes in as a value that its kind admits. -/
def IsSound (allowed : NameSet) (databases : List Choice) (field : Field) : Prop :=
  ∀ raw files value, field.clean databases raw files = .ok value →
    field.kind.Admits allowed databases value

section Rows

variable {allowed : NameSet} {databases : List Choice} {name label description : String}

theorem isSound_tableName : IsSound allowed databases (tableName name description) := by
  intro raw files value h
  obtain ⟨text, -, -, -, rfl⟩ := clean_tableName_eq_ok_iff.mp h
  exact .text text

theorem isSound_database {description : Option String} :
    IsSound allowed databases (database description) := by
  intro raw files value h
  obtain ⟨text, id, -, -, hlisted, rfl⟩ := clean_database_eq_ok_iff.mp h
  exact .database hlisted

theorem isSound_fileUpload_file :
    IsSound allowed databases (fileUpload name label .file description .fileRequired allowed) := by
  intro raw files value h
  obtain ⟨filename, -, hallowed, rfl⟩ := clean_fileUpload_file_eq_ok_iff.mp h
  exact .file hallowed

theorem isSound_fileUpload_files :
    IsSound allowed databases
      (fileUpload name label .files description .dataRequired allowed) := by
  intro raw files value h
  obtain ⟨hne, hallowed, rfl⟩ := clean_fileUpload_files_eq_ok_iff.mp h
  exact .files hne hallowed

theorem isSound_optionalText :
    IsSound allowed databases (optionalText name label description) := by
  intro raw files value h
  rcases clean_optionalText_eq_ok_iff.mp h with ⟨-, rfl⟩ | ⟨text, -, -, rfl⟩
  · exact .noText
  · exact .text text

theorem isSound_optionalCount :
    IsSound allowed databases (optionalCount name label description) := by
  intro raw files value h
  rcases clean_optionalCount_eq_ok_iff.mp h with ⟨-, rfl⟩ | ⟨text, n, -, -, hcount, rfl⟩
  · exact .noInteger
  · exact .integer hcount

theorem isSound_flag : IsSound allowed databases (flag name label description) := by
  intro raw files value h
  rw [clean_flag] at h
  obtain rfl := Except.ok.inj h
  exact .boolean _

theorem isSound_ifExists : IsSound allowed databases (ifExists label description) := by
  intro raw files value h
  obtain ⟨text, -, -, rfl⟩ := clean_ifExists_eq_ok_iff.mp h
  exact .select text

theorem isSound_delimiter : IsSound allowed databases delimiter := by
  intro raw files value h
  rcases clean_delimiter_eq_ok_iff.mp h with ⟨-, rfl⟩ | ⟨text, -, -, rfl⟩
  · exact .select ","
  · exact .select text

theorem isSound_otherDelimiter : IsSound allowed databases otherDelimiter := by
  intro raw files value h
  rw [clean_otherDelimiter] at h
  obtain rfl := Except.ok.inj h
  cases raw with
  | none => exact .noText
  | some text => exact .text text

theorem isSound_decimal : IsSound allowed databases (decimal description) := by
  intro raw files value h
  rcases clean_decimal_eq_ok_iff.mp h with ⟨-, rfl⟩ | ⟨text, -, ⟨-, rfl⟩ | ⟨-, -, rfl⟩⟩
  · exact .text "."
  · exact .noText
  · exact .text text

theorem isSound_parseDates : IsSound allowed databases (parseDates label description) := by
  intro raw files value h
  rcases clean_parseDates_eq_ok_iff.mp h with ⟨-, rfl⟩ | ⟨text, -, ⟨-, rfl⟩ | ⟨hne, rfl⟩⟩
  · exact .noItems
  · exact .noItems
  · exact .items hne fun item hitem => isItem_of_mem_commaItems hitem

theorem isSound_nullValues {names : List String} :
    IsSound allowed databases (nullValues label description names) := by
  intro raw files value h
  rcases clean_nullValues_eq_ok_iff.mp h with
    ⟨-, rfl⟩ | ⟨text, -, ⟨-, rfl⟩ | ⟨-, items, -, rfl⟩⟩
  · exact .array _
  · exact .array []
  · exact .array items

theorem isSound_columnNames :
    IsSound allowed databases (columnNames name label description) := by
  intro raw files value h
  rcases clean_columnNames_eq_ok_iff.mp h with ⟨-, rfl⟩ | ⟨text, items, -, -, -, rfl⟩
  · exact .noArray
  · exact .array items

end Rows

variable {settings : UploadSettings} {kind : Kind} {databases : List Choice}
  {submission : Submission} {upload : Upload} {field : Field} {name : String}

/-- Every row of the catalog is sound. -/
theorem isSound_of_mem_catalog (hmem : field ∈ (catalog settings kind).fields) :
    IsSound (settings.extensionsFor kind) databases field := by
  cases isRow_of_mem_catalog hmem with
  | tableName => exact isSound_tableName
  | database => exact isSound_database
  | file => exact isSound_fileUpload_file
  | files => exact isSound_fileUpload_files
  | optionalText => exact isSound_optionalText
  | optionalCount => exact isSound_optionalCount
  | flag => exact isSound_flag
  | ifExists => exact isSound_ifExists
  | delimiter => exact isSound_delimiter
  | otherDelimiter => exact isSound_otherDelimiter
  | decimal => exact isSound_decimal
  | parseDates => exact isSound_parseDates
  | nullValues => exact isSound_nullValues
  | columnNames => exact isSound_columnNames

/-! ## The values of an upload -/

theorem isClean_of_validate (h : (catalog settings kind).validate databases submission = .ok upload)
    (hmem : field ∈ (catalog settings kind).fields) : IsClean databases submission field :=
  (fillsIn_iff.mp (fillsIn_of_validate_catalog h)).1 field hmem

theorem values_of_validate
    (h : (catalog settings kind).validate databases submission = .ok upload) :
    upload.values = ((catalog settings kind).draft databases submission).values := by
  obtain ⟨-, id, -, rfl⟩ := validate_eq_ok_iff.mp h
  rfl

/-- Every field but the delimiter keeps the value with which it was cleaned. -/
theorem exists_get?_values_of_field?
    (h : (catalog settings kind).validate databases submission = .ok upload)
    (hfield : (catalog settings kind).field? name = some field) (hname : name ≠ "delimiter") :
    ∃ value, cleanField databases submission field = .ok value ∧
      upload.values.get? name = some value := by
  have hmem : field ∈ (catalog settings kind).fields := List.mem_of_find?_eq_some hfield
  obtain ⟨value, hvalue⟩ := isClean_of_validate h hmem
  refine ⟨value, hvalue, ?_⟩
  rw [values_of_validate h, get?_values_draft nodup_map_name_catalog hname, hfield,
    Option.bind_some, hvalue]
  rfl

theorem kind_of_field?_delimiter
    (hfield : (catalog settings kind).field? "delimiter" = some field) :
    kind = .csv ∧ field = delimiter := by
  cases kind with
  | csv => exact ⟨rfl, (Option.some.inj hfield).symm⟩
  | excel =>
    have hnone : (catalog settings .excel).field? "delimiter" = none := rfl
    exact absurd (hnone.symm.trans hfield) (by simp)
  | columnar =>
    have hnone : (catalog settings .columnar).field? "delimiter" = none := rfl
    exact absurd (hnone.symm.trans hfield) (by simp)

/-- The delimiter is one of the options or was typed in, and is not empty. -/
theorem exists_delimiter_of_validate
    (h : (catalog settings .csv).validate databases submission = .ok upload) :
    ∃ text, upload.values.get? "delimiter" = some (.text text) ∧ text ≠ "" := by
  have hfield : (catalog settings .csv).field? "delimiter" = some delimiter := rfl
  have hclean := isClean_of_validate h (List.mem_of_find?_eq_some hfield)
  obtain ⟨value, hvalue, hget⟩ := exists_get?_values_cleaned hfield hclean
  have hresolved : ((catalog settings .csv).draft databases submission) =
      ((catalog settings .csv).cleaned databases submission).resolveDelimiter := if_pos rfl
  rw [values_of_validate h, hresolved]
  rcases clean_delimiter_eq_ok_iff.mp hvalue with ⟨-, rfl⟩ | ⟨text, hoption, -, rfl⟩
  · exact Draft.exists_delimiter_resolveDelimiter hget (by decide)
  · have hne : text ≠ "" := by
      rintro rfl
      exact absurd hoption (by decide)
    exact Draft.exists_delimiter_resolveDelimiter hget hne

/-- Every field of the form has a value that its kind admits. -/
theorem exists_admits_of_validate
    (h : (catalog settings kind).validate databases submission = .ok upload)
    (hmem : field ∈ (catalog settings kind).fields) :
    ∃ value, upload.values.get? field.name = some value ∧
      field.kind.Admits (settings.extensionsFor kind) databases value := by
  have hfield := field?_name_of_mem nodup_map_name_catalog hmem
  by_cases hname : field.name = "delimiter"
  · rw [hname] at hfield ⊢
    obtain ⟨rfl, rfl⟩ := kind_of_field?_delimiter hfield
    obtain ⟨text, htext, -⟩ := exists_delimiter_of_validate h
    exact ⟨.text text, htext, .select text⟩
  · obtain ⟨value, hvalue, hget⟩ := exists_get?_values_of_field? h hfield hname
    exact ⟨value, hget, isSound_of_mem_catalog hmem _ _ _ hvalue⟩

/-- Resolving the delimiter neither adds nor takes away a name. -/
theorem isSome_get?_values_draft (form : Form) (databases : List Choice) (submission : Submission)
    (name : String) : ((form.draft databases submission).values.get? name).isSome =
      ((form.cleaned databases submission).values.get? name).isSome := by
  unfold draft
  split
  · exact Draft.isSome_get?_values_resolveDelimiter _ name
  · rfl

/-- The names of the values are those of the fields. -/
theorem mem_names_of_validate
    (h : (catalog settings kind).validate databases submission = .ok upload) :
    name ∈ upload.values.names ↔ name ∈ (catalog settings kind).fields.map Field.name := by
  rw [NameTable.mem_names_iff]
  constructor
  · rintro ⟨value, hvalue⟩
    have hsome : (((catalog settings kind).cleaned databases submission).values.get? name).isSome
        = true := by
      rw [← isSome_get?_values_draft, ← values_of_validate h, hvalue]
      rfl
    rw [get?_values_cleaned nodup_map_name_catalog, Option.isSome_bind] at hsome
    obtain ⟨field, hfield, -⟩ := (Option.any_eq_true _ _).mp hsome
    have hname : field.name = name := by simpa using List.find?_some hfield
    exact List.mem_map.mpr ⟨field, List.mem_of_find?_eq_some hfield, hname⟩
  · intro hname
    obtain ⟨field, hmem, rfl⟩ := List.mem_map.mp hname
    obtain ⟨value, hvalue, -⟩ := exists_admits_of_validate h hmem
    exact ⟨value, hvalue⟩

/-! ## Fields of their own -/

theorem exists_field?_table (settings : UploadSettings) (kind : Kind) :
    ∃ description, (catalog settings kind).field? kind.tableField =
      some (tableName kind.tableField description) := by
  cases kind <;> exact ⟨_, rfl⟩

theorem exists_field?_ifExists (settings : UploadSettings) (kind : Kind) :
    ∃ label description, (catalog settings kind).field? "if_exists" =
      some (ifExists label description) := by
  cases kind <;> exact ⟨_, _, rfl⟩

theorem exists_field?_decimal (settings : UploadSettings) (hkind : kind ≠ .columnar) :
    ∃ description, (catalog settings kind).field? "decimal" = some (decimal description) := by
  cases kind with
  | columnar => exact absurd rfl hkind
  | csv | excel => exact ⟨_, rfl⟩

theorem exists_field?_nullValues (settings : UploadSettings) (hkind : kind ≠ .columnar) :
    ∃ label description, (catalog settings kind).field? "null_values" =
      some (nullValues label description settings.nullNames) := by
  cases kind with
  | columnar => exact absurd rfl hkind
  | csv | excel => exact ⟨_, _, rfl⟩

/-- What the values of an upload are: one for each field, of the field's kind, and for some fields
more than the kind asks for. -/
structure IsTyped (settings : UploadSettings) (kind : Kind) (databases : List Choice)
    (upload : Upload) : Prop where
  names : ∀ name, name ∈ upload.values.names ↔
    name ∈ (catalog settings kind).fields.map Field.name
  kinds : ∀ field ∈ (catalog settings kind).fields, ∃ value,
    upload.values.get? field.name = some value ∧
      field.kind.Admits (settings.extensionsFor kind) databases value
  database : upload.values.get? "database" = some (.integer upload.databaseId) ∧
    upload.databaseId ∈ databases.map Choice.id
  table : ∃ text, upload.values.get? kind.tableField = some (.text text) ∧
    Text.blank text = false ∧ '.' ∉ text.toList
  ifExists : ∃ text ∈ ["fail", "replace", "append"],
    upload.values.get? "if_exists" = some (.text text)
  delimiter : kind = .csv → ∃ text,
    upload.values.get? "delimiter" = some (.text text) ∧ text ≠ ""
  decimal : kind ≠ .columnar → upload.values.get? "decimal" = some .null ∨
    ∃ text, upload.values.get? "decimal" = some (.text text) ∧ text.length = 1
  nullValues : kind ≠ .columnar → ∃ items,
    upload.values.get? "null_values" = some (.json items)
  schema : ∀ name, upload.schema = some name → Text.trim name = name ∧ name ≠ ""

theorem database_of_validate
    (h : (catalog settings kind).validate databases submission = .ok upload) :
    upload.values.get? "database" = some (.integer upload.databaseId) := by
  obtain ⟨-, id, hid, rfl⟩ := validate_eq_ok_iff.mp h
  obtain ⟨value, hvalue, hinteger⟩ := Option.bind_eq_some_iff.mp hid
  cases value with
  | integer n =>
    obtain rfl := Option.some.inj hinteger
    exact hvalue
  | _ => exact absurd hinteger (by simp [Value.integer?])

theorem table_of_validate
    (h : (catalog settings kind).validate databases submission = .ok upload) :
    ∃ text, upload.values.get? kind.tableField = some (.text text) ∧
      Text.blank text = false ∧ '.' ∉ text.toList := by
  obtain ⟨description, hfield⟩ := exists_field?_table settings kind
  have hname : kind.tableField ≠ "delimiter" := by cases kind <;> decide
  obtain ⟨value, hvalue, hget⟩ := exists_get?_values_of_field? h hfield hname
  obtain ⟨text, -, hblank, hdot, rfl⟩ := clean_tableName_eq_ok_iff.mp hvalue
  exact ⟨text, hget, hblank, hdot⟩

theorem ifExists_of_validate
    (h : (catalog settings kind).validate databases submission = .ok upload) :
    ∃ text ∈ ["fail", "replace", "append"],
      upload.values.get? "if_exists" = some (.text text) := by
  obtain ⟨label, description, hfield⟩ := exists_field?_ifExists settings kind
  obtain ⟨value, hvalue, hget⟩ := exists_get?_values_of_field? h hfield (by decide)
  obtain ⟨text, hoption, -, rfl⟩ := clean_ifExists_eq_ok_iff.mp hvalue
  exact ⟨text, hoption, hget⟩

theorem decimal_of_validate
    (h : (catalog settings kind).validate databases submission = .ok upload)
    (hkind : kind ≠ .columnar) :
    upload.values.get? "decimal" = some .null ∨
      ∃ text, upload.values.get? "decimal" = some (.text text) ∧ text.length = 1 := by
  obtain ⟨description, hfield⟩ := exists_field?_decimal settings hkind
  obtain ⟨value, hvalue, hget⟩ := exists_get?_values_of_field? h hfield (by decide)
  rcases clean_decimal_eq_ok_iff.mp hvalue with ⟨-, rfl⟩ | ⟨text, -, ⟨-, rfl⟩ | ⟨-, hone, rfl⟩⟩
  · exact Or.inr ⟨".", hget, by decide⟩
  · exact Or.inl hget
  · exact Or.inr ⟨text, hget, hone⟩

/-- The null list is never missing, for a blank text stands for the empty list. -/
theorem nullValues_of_validate
    (h : (catalog settings kind).validate databases submission = .ok upload)
    (hkind : kind ≠ .columnar) :
    ∃ items, upload.values.get? "null_values" = some (.json items) := by
  obtain ⟨label, description, hfield⟩ := exists_field?_nullValues settings hkind
  obtain ⟨value, hvalue, hget⟩ := exists_get?_values_of_field? h hfield (by decide)
  rcases clean_nullValues_eq_ok_iff.mp hvalue with
    ⟨-, rfl⟩ | ⟨text, -, ⟨-, rfl⟩ | ⟨-, items, -, rfl⟩⟩
  · exact ⟨_, hget⟩
  · exact ⟨[], hget⟩
  · exact ⟨items, hget⟩

theorem trimmed_schema_of_validate
    (h : (catalog settings kind).validate databases submission = .ok upload)
    (hschema : upload.schema = some name) : Text.trim name = name ∧ name ≠ "" := by
  rw [schema_of_validate_catalog h] at hschema
  obtain ⟨htrimmed, hne⟩ := Option.filter_eq_some_iff.mp hschema
  obtain ⟨text, -, rfl⟩ := Option.map_eq_some_iff.mp htrimmed
  exact ⟨Text.trim_trim text, by simpa using hne⟩

/-- The values of every accepted upload are typed. -/
theorem isTyped_of_validate_catalog
    (h : (catalog settings kind).validate databases submission = .ok upload) :
    IsTyped settings kind databases upload where
  names := fun _ => mem_names_of_validate h
  kinds := fun _ hmem => exists_admits_of_validate h hmem
  database := ⟨database_of_validate h, (databaseId_of_validate_catalog h).1⟩
  table := table_of_validate h
  ifExists := ifExists_of_validate h
  delimiter := by
    rintro rfl
    exact exists_delimiter_of_validate h
  decimal := decimal_of_validate h
  nullValues := nullValues_of_validate h
  schema := fun _ hschema => trimmed_schema_of_validate h hschema

/-- A submission with a delimiter of its own, a blank null list and dates between commas. -/
def pipedSales : Submission where
  fields := .ofList
    [("table_name", "sales"), ("database", " 1"), ("if_exists", "append"), ("delimiter", "other"),
      ("otherInput", "|"), ("decimal", ""), ("null_values", " "), ("parse_dates", " day,, month "),
      ("schema", " public "), ("nrows", "10"), ("skip_blank_lines", "no")]
  files := [⟨"csv_file", "sales.CSV"⟩, ⟨"csv_file", "notes.pdf"⟩]

theorem isTyped_pipedSales :
    ∃ upload, (catalog .builtIn .csv).validate [⟨1, "warehouse"⟩] pipedSales = .ok upload ∧
      IsTyped .builtIn .csv [⟨1, "warehouse"⟩] upload := by
  obtain ⟨upload, hupload⟩ : ∃ upload,
      (catalog .builtIn .csv).validate [⟨1, "warehouse"⟩] pipedSales = .ok upload := ⟨_, rfl⟩
  exact ⟨upload, hupload, isTyped_of_validate_catalog hupload⟩

end UploadGate.Form
