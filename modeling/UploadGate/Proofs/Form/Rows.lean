import UploadGate.Form.Catalog
import UploadGate.Proofs.Form.Cleaning

/-! # What the rows of the catalog take in

For each kind of row in the tables of the forms: the raw texts or files for which it is clean, and
the value that it then has.
-/

namespace UploadGate.Form

variable {name label description : String} {databases : List Choice} {raw : Option String}
  {files : List String} {value : Value}

/-! ## Names -/

@[simp] theorem name_tableName : (tableName name description).name = name := rfl

@[simp] theorem name_database {description : Option String} :
    (database description).name = "database" := rfl

@[simp] theorem name_fileUpload {kind : FieldKind} {presence : Validator} {extensions : NameSet} :
    (fileUpload name label kind description presence extensions).name = name := rfl

@[simp] theorem name_ifExists : (ifExists label description).name = "if_exists" := rfl

@[simp] theorem name_decimal : (decimal description).name = "decimal" := rfl

@[simp] theorem name_nullValues {names : List String} :
    (nullValues label description names).name = "null_values" := rfl

@[simp] theorem name_optionalCount : (optionalCount name label description).name = name := rfl

@[simp] theorem name_columnNames : (columnNames name label description).name = name := rfl

@[simp] theorem name_delimiter : delimiter.name = "delimiter" := rfl

@[simp] theorem name_otherDelimiter : otherDelimiter.name = "otherInput" := rfl

/-! ## Rows that may not be left blank -/

theorem clean_tableName_eq_ok_iff :
    (tableName name description).clean databases raw files = .ok value ↔
      ∃ text, raw = some text ∧ Text.blank text = false ∧ '.' ∉ text.toList ∧
        value = .text text := by
  have habsent : (tableName name description).absentValue = .null := rfl
  have hcheck : ∀ text, (tableName name description).check files (.text text) = .ok value ↔
      Text.blank text = false ∧ (text ≠ "" ∧ ∀ c ∈ text.toList, c ≠ '.') ∧ value = .text text := by
    intro text
    rw [Field.check_of_required rfl (by simp [tableName])]
    simp [tableName, tablePattern, Pattern.avoids_iff, Value.isBlank]
  rw [Field.clean_input rfl, Field.cleanInput_of_required rfl rfl, habsent,
    Field.check_of_required rfl (by simp [tableName])]
  constructor
  · rintro (⟨-, hnull, -⟩ | ⟨text, rfl, hblank, _, hread, h⟩)
    · exact absurd hnull (by decide)
    · obtain rfl := Except.ok.inj hread
      obtain ⟨-, ⟨-, hdot⟩, rfl⟩ := (hcheck text).mp h
      exact ⟨text, rfl, hblank, fun hmem => hdot '.' hmem rfl, rfl⟩
  · rintro ⟨text, rfl, hblank, hdot, rfl⟩
    have hne : text ≠ "" := by
      rintro rfl
      exact absurd hblank (by decide)
    have hchars : ∀ c ∈ text.toList, c ≠ '.' := fun c hc heq => hdot (heq ▸ hc)
    exact Or.inr ⟨text, rfl, hblank, _, rfl, (hcheck text).mpr ⟨hblank, ⟨hne, hchars⟩, rfl⟩⟩

/-- A select field that may not be left blank and has no other validators takes in its options, and
may be left out if its default is not blank. -/
theorem clean_select_eq_ok_iff {field : Field} (hkind : field.kind = .input .select)
    (hvalidators : field.validators = [.dataRequired])
    (hoptions : ∀ option ∈ field.options, Text.blank option.value = false) :
    field.clean databases raw files = .ok value ↔
      raw = none ∧ field.absentValue.isBlank = false ∧ value = field.absentValue ∨
        ∃ text ∈ field.options.map SelectOption.value, raw = some text ∧ value = .text text := by
  have hoptional : field.isOptional = false := by rw [Field.isOptional, hvalidators]; rfl
  have hrequired : field.isRequired = true := by rw [Field.isRequired, hvalidators]; rfl
  have hcheck : ∀ found, field.check files found = .ok value ↔
      found.isBlank = false ∧ value = found := by
    intro found
    simp [Field.check_of_required hrequired, hvalidators, hkind]
  rw [Field.clean_input hkind, Field.cleanInput_of_required hoptional hrequired]
  simp only [hcheck, Field.read_select_eq_ok_iff]
  apply or_congr_right
  constructor
  · rintro ⟨text, rfl, -, _, ⟨hmem, rfl⟩, -, rfl⟩
    exact ⟨text, hmem, rfl, rfl⟩
  · rintro ⟨text, hmem, rfl, rfl⟩
    obtain ⟨option, hoption, rfl⟩ := List.mem_map.mp hmem
    have hblank := hoptions option hoption
    exact ⟨_, rfl, hblank, _, ⟨hmem, rfl⟩, hblank, rfl⟩

theorem clean_ifExists_eq_ok_iff :
    (ifExists label description).clean databases raw files = .ok value ↔
      ∃ text ∈ ["fail", "replace", "append"], raw = some text ∧ value = .text text := by
  have hoptions : ∀ option ∈ (ifExists label description).options,
      Text.blank option.value = false := by
    simp only [ifExists]
    decide
  rw [clean_select_eq_ok_iff rfl rfl hoptions]
  simp [ifExists, Field.absentValue, Value.isBlank]

theorem clean_delimiter_eq_ok_iff :
    delimiter.clean databases raw files = .ok value ↔
      raw = none ∧ value = .text "," ∨
        ∃ text ∈ [",", ".", "other"], raw = some text ∧ value = .text text := by
  rw [clean_select_eq_ok_iff rfl rfl (by decide)]
  have hcomma : (Value.text ",").isBlank = false := by decide
  simp [delimiter, Field.absentValue, hcomma]

/-- A field of which one file is taken needs a first one with an allowed extension. -/
theorem clean_fileUpload_file_eq_ok_iff {extensions : NameSet} :
    (fileUpload name label .file description .fileRequired extensions).clean databases raw files =
        .ok value ↔
      ∃ filename, files.head? = some filename ∧
        (∃ extension ∈ extensions, HasExtension filename extension) ∧ value = .list [filename] := by
  change (fileUpload name label .file description .fileRequired extensions).cleanFiles
    (files.take 1) = .ok value ↔ _
  rw [Field.cleanFiles_of_required rfl, Field.check_of_required rfl (by simp [fileUpload])]
  cases files with
  | nil => simp
  | cons filename rest => simp [fileUpload, Value.isBlank]

/-- A field of several files needs at least one, and an allowed extension for each. -/
theorem clean_fileUpload_files_eq_ok_iff {extensions : NameSet} :
    (fileUpload name label .files description .dataRequired extensions).clean databases raw files =
        .ok value ↔
      files ≠ [] ∧ (∀ filename ∈ files, ∃ extension ∈ extensions, HasExtension filename extension) ∧
        value = .list files := by
  change (fileUpload name label .files description .dataRequired extensions).cleanFiles files =
    .ok value ↔ _
  rw [Field.cleanFiles_of_required rfl, Field.check_of_required rfl (by simp [fileUpload])]
  apply and_congr_right
  intro hfiles
  simp [fileUpload, Value.isBlank, hfiles]

/-! ## Rows that may be left blank -/

theorem clean_optionalText_eq_ok_iff :
    (optionalText name label description).clean databases raw files = .ok value ↔
      LeftBlank raw ∧ value = .null ∨
        ∃ text, raw = some text ∧ Text.blank text = false ∧ value = .text text := by
  have habsent : (optionalText name label description).absentValue = .null := rfl
  have hcheck : ∀ found, (optionalText name label description).check files found = .ok value ↔
      value = found := by
    intro found
    rw [Field.check_of_not_required rfl (by simp [optionalText])]
    simp [optionalText]
  rw [Field.clean_input rfl, Field.cleanInput_of_optional rfl, habsent]
  cases raw <;> simp [Field.read_text, hcheck]

theorem exists_clean_optionalText :
    ∃ found, (optionalText name label description).clean databases raw files = .ok found := by
  simp only [clean_optionalText_eq_ok_iff, exists_or, existsAndEq, and_true]
  cases raw with
  | none => simp
  | some text => cases hblank : Text.blank text <;> simp [hblank]

theorem clean_optionalCount_eq_ok_iff :
    (optionalCount name label description).clean databases raw files = .ok value ↔
      LeftBlank raw ∧ value = .null ∨
        ∃ text n, raw = some text ∧ IsInteger text n ∧ 0 ≤ n ∧ value = .integer n := by
  have habsent : (optionalCount name label description).absentValue = .null := rfl
  have hcheck : ∀ n, (optionalCount name label description).check files (.integer n) = .ok value ↔
      0 ≤ n ∧ value = .integer n := by
    intro n
    rw [Field.check_of_not_required rfl (by simp [optionalCount])]
    simp [optionalCount]
  rw [Field.clean_input rfl, Field.cleanInput_of_optional rfl, habsent]
  cases raw with
  | none => simp
  | some text =>
    simp only [Field.read_integer_eq_ok_iff, leftBlank_some, reduceCtorEq, false_and, false_or,
      Option.some.injEq, exists_eq_left']
    apply or_congr_right
    constructor
    · rintro ⟨-, _, ⟨n, hinteger, rfl⟩, h⟩
      exact ⟨text, n, rfl, hinteger, (hcheck n).mp h⟩
    · rintro ⟨_, n, rfl, hinteger, h⟩
      exact ⟨hinteger.blank_eq_false, _, ⟨n, hinteger, rfl⟩, (hcheck n).mpr h⟩

theorem clean_decimal_eq_ok_iff :
    (decimal description).clean databases raw files = .ok value ↔
      raw = none ∧ value = .text "." ∨
        ∃ text, raw = some text ∧ (Text.blank text = true ∧ value = .null ∨
          Text.blank text = false ∧ text.length = 1 ∧ value = .text text) := by
  have habsent : (decimal description).absentValue = .text "." := rfl
  have hcheck : ∀ text, (decimal description).check files (.text text) = .ok value ↔
      text.length = 1 ∧ value = .text text := by
    intro text
    rw [Field.check_of_not_required rfl (by simp [decimal])]
    simp [decimal]
  rw [Field.clean_input rfl, Field.cleanInput_of_optional rfl, habsent]
  simp [Field.read_text, hcheck]

theorem clean_columnNames_eq_ok_iff :
    (columnNames name label description).clean databases raw files = .ok value ↔
      LeftBlank raw ∧ value = .null ∨
        ∃ text items, raw = some text ∧ Text.blank text = false ∧ IsJsonArray text items ∧
          value = .json items := by
  have habsent : (columnNames name label description).absentValue = .null := rfl
  have hcheck : ∀ found, (columnNames name label description).check files found = .ok value ↔
      value = found := by
    intro found
    rw [Field.check_of_not_required rfl (by simp [columnNames])]
    simp [columnNames]
  rw [Field.clean_input rfl, Field.cleanInput_of_optional rfl, habsent]
  cases raw with
  | none => simp
  | some text =>
    cases hblank : Text.blank text <;> simp [hblank, hcheck, Field.read_jsonList_eq_ok_iff]

/-! ## Rows of which nothing is said about blanks -/

theorem clean_database_eq_ok_iff {description : Option String} :
    (database description).clean databases raw files = .ok value ↔
      ∃ text id, raw = some text ∧ IsInteger text id ∧ id ∈ databases.map Choice.id ∧
        value = .integer id := by
  have habsent : (database description).check files .null ≠ .ok value := by
    simp [Field.check_eq_ok_iff, database, Value.integer?]
  have hcheck : ∀ id, (database description).check files (.integer id) = .ok value ↔
      value = .integer id := by
    intro id
    simp [Field.check_eq_ok_iff, database, Field.isRequired, Value.integer?]
  rw [Field.clean_input rfl, Field.cleanInput_of_neither rfl rfl]
  simp only [Field.read_database_eq_ok_iff]
  constructor
  · rintro (⟨-, h⟩ | ⟨text, rfl, _, ⟨id, hinteger, hlisted, rfl⟩, h⟩)
    · exact absurd h habsent
    · exact ⟨text, id, rfl, hinteger, hlisted, (hcheck id).mp h⟩
  · rintro ⟨text, id, rfl, hinteger, hlisted, h⟩
    exact Or.inr ⟨text, rfl, _, ⟨id, hinteger, hlisted, rfl⟩, (hcheck id).mpr h⟩

/-- A field without validators, other than one for a database, takes in what it can read. -/
theorem clean_of_no_validators {field : Field} {kind : InputKind} (hkind : field.kind = .input kind)
    (hdatabase : kind ≠ .database) (hvalidators : field.validators = []) :
    field.clean databases raw files = .ok value ↔
      raw = none ∧ value = field.absentValue ∨
        ∃ text, raw = some text ∧ field.read kind databases text = .ok value := by
  have hoptional : field.isOptional = false := by rw [Field.isOptional, hvalidators]; rfl
  have hrequired : field.isRequired = false := by rw [Field.isRequired, hvalidators]; rfl
  have hcheck : ∀ found, field.check files found = .ok value ↔ value = found := by
    intro found
    rw [Field.check_of_not_required hrequired (by simpa [hkind] using hdatabase)]
    simp [hvalidators]
  rw [Field.clean_input hkind, Field.cleanInput_of_neither hoptional hrequired]
  simp only [hcheck, exists_eq_right']

theorem clean_flag :
    (flag name label description).clean databases raw files =
      .ok (.bool (raw.any fun text => text ≠ "" && text ≠ "false")) := by
  rw [clean_of_no_validators rfl (by decide) rfl]
  cases raw with
  | none => exact Or.inl ⟨rfl, rfl⟩
  | some text => exact Or.inr ⟨text, rfl, Field.read_boolean⟩

theorem clean_otherDelimiter :
    otherDelimiter.clean databases raw files = .ok (raw.elim .null .text) := by
  rw [clean_of_no_validators rfl (by decide) rfl]
  cases raw with
  | none => exact Or.inl ⟨rfl, rfl⟩
  | some text => exact Or.inr ⟨text, rfl, Field.read_text⟩

theorem exists_clean_parseDates :
    ∃ found, (parseDates label description).clean databases raw files = .ok found := by
  have hclean : ∀ found, (parseDates label description).clean databases raw files = .ok found ↔ _ :=
    fun found => clean_of_no_validators rfl (by decide) rfl
  cases raw with
  | none => exact ⟨_, (hclean _).mpr (Or.inl ⟨rfl, rfl⟩)⟩
  | some text =>
    have hread := Field.read_commaList (parseDates label description) databases text
    exact ⟨_, (hclean _).mpr (Or.inr ⟨text, rfl, hread⟩)⟩

theorem clean_parseDates_eq_ok_iff :
    (parseDates label description).clean databases raw files = .ok value ↔
      raw = none ∧ value = .null ∨
        ∃ text, raw = some text ∧ (commaItems text = [] ∧ value = .null ∨
          commaItems text ≠ [] ∧ value = .list (commaItems text)) := by
  have habsent : (parseDates label description).absentValue = .null := rfl
  rw [clean_of_no_validators rfl (by decide) rfl, habsent]
  simp only [Field.read_commaList_eq_ok_iff]

theorem clean_nullValues_eq_ok_iff {names : List String} :
    (nullValues label description names).clean databases raw files = .ok value ↔
      raw = none ∧ value = .json (names.map .string) ∨
        ∃ text, raw = some text ∧ (Text.blank text = true ∧ value = .json [] ∨
          Text.blank text = false ∧ ∃ items, IsJsonArray text items ∧ value = .json items) := by
  have habsent : (nullValues label description names).absentValue =
      .json (names.map .string) := rfl
  rw [clean_of_no_validators rfl (by decide) rfl, habsent]
  simp only [Field.read_jsonList_eq_ok_iff]

end UploadGate.Form
