import UploadGate.Form.Shape
import UploadGate.Proofs.Form.Acceptance

/-! # Plain submissions

A form of the catalog asks nothing of the schema of a submission, so that a user may put in any
other one. What it does ask for a plain submission has, whatever database it is for.
-/

namespace UploadGate.Form

variable {settings : UploadSettings} {kind : Kind} {databases : List Choice}
  {submission other : Submission} {upload : Upload} {schema : String} {id : Int}

/-! ## The schema of a submission -/

theorem tableField_ne_schema : kind.tableField ≠ "schema" := by cases kind <;> decide

theorem ne_schema_of_mem_countFields {name : String} (h : name ∈ kind.countFields) :
    name ≠ "schema" := by
  rintro rfl
  revert h
  cases kind <;> decide

theorem ne_schema_of_mem_columnsFields {name : String} (h : name ∈ kind.columnsFields) :
    name ≠ "schema" := by
  rintro rfl
  revert h
  cases kind <;> decide

/-- Submissions that agree in all but their schema fill in the same forms. -/
theorem FillsIn.congr (h : FillsIn settings kind databases submission)
    (hfields : ∀ name ≠ "schema", other.fields.get? name = submission.fields.get? name)
    (hfiles : other.files = submission.files) : FillsIn settings kind databases other := by
  have hbound : other.filesFor = submission.filesFor := by
    unfold Submission.filesFor
    rw [hfiles]
  refine
    { table := ?_, database := ?_, ifExists := ?_, files := ?_, decimal := ?_, nullValues := ?_,
      counts := ?_, columns := ?_, delimiter := ?_, typed := ?_ }
  · rw [hfields _ tableField_ne_schema]
    exact h.table
  · rw [hfields "database" (by decide)]
    exact h.database
  · rw [hfields "if_exists" (by decide)]
    exact h.ifExists
  · rw [hbound]
    exact h.files
  · rw [hfields "decimal" (by decide)]
    exact h.decimal
  · rw [hfields "null_values" (by decide)]
    exact h.nullValues
  · intro name hname
    rw [hfields name (ne_schema_of_mem_countFields hname)]
    exact h.counts name hname
  · intro name hname
    rw [hfields name (ne_schema_of_mem_columnsFields hname)]
    exact h.columns name hname
  · rw [hfields "delimiter" (by decide)]
    exact h.delimiter
  · unfold TypesDelimiter
    rw [hfields "delimiter" (by decide), hfields "otherInput" (by decide)]
    exact h.typed

/-- The submission for another schema. -/
def Submission.withSchema (submission : Submission) (schema : String) : Submission :=
  { submission with fields := submission.fields.insert "schema" schema }

theorem get?_fields_withSchema (submission : Submission) (schema : String) {name : String}
    (hname : name ≠ "schema") :
    (submission.withSchema schema).fields.get? name = submission.fields.get? name := by
  rw [Submission.withSchema, NameTable.get?_insert, if_neg hname]

theorem FillsIn.withSchema (h : FillsIn settings kind databases submission) (schema : String) :
    FillsIn settings kind databases (submission.withSchema schema) :=
  h.congr (fun _ hname => get?_fields_withSchema submission schema hname) rfl

@[simp] theorem shapeErrors_withSchema :
    (submission.withSchema schema).shapeErrors = submission.shapeErrors := rfl

/-- Putting in another schema changes that of the upload alone, where its name is trimmed. -/
theorem exists_validate_withSchema
    (h : (catalog settings kind).validate databases submission = .ok upload)
    (htrim : Text.trim schema = schema) (hne : schema ≠ "") :
    ∃ moved, (catalog settings kind).validate databases (submission.withSchema schema) =
        .ok moved ∧ moved.databaseId = upload.databaseId ∧ moved.schema = some schema := by
  have hfills := (fillsIn_of_validate_catalog h).withSchema schema
  obtain ⟨moved, hmoved⟩ := exists_validate_catalog hfills
  refine ⟨moved, hmoved, ?_, ?_⟩
  · obtain ⟨-, text, htext, hinteger⟩ := databaseId_of_validate_catalog h
    obtain ⟨-, text', htext', hinteger'⟩ := databaseId_of_validate_catalog hmoved
    rw [get?_fields_withSchema submission schema (by decide), htext, Option.some.injEq] at htext'
    rw [← integerOf?_eq_some_iff] at hinteger hinteger'
    rw [← htext', hinteger, Option.some.injEq] at hinteger'
    exact hinteger'.symm
  · rw [schema_of_validate_catalog hmoved, Submission.withSchema, NameTable.get?_insert, if_pos rfl]
    simp [htrim, hne]

/-! ## Plain submissions -/

/-- An extension of the files that a form is for. -/
def Kind.extension : Kind → String
  | csv => "csv"
  | excel => "xlsx"
  | columnar => "parquet"

/-- A submission of one file for a new table in a database. -/
def plain (kind : Kind) (id : Int) : Submission where
  fields := .ofList
    [(kind.tableField, "data"), ("database", Numeral.text id), ("if_exists", "fail")]
  files := [⟨kind.fileField, "data." ++ kind.extension⟩]

theorem get?_fields_plain (kind : Kind) (id : Int) (name : String) :
    (plain kind id).fields.get? name =
      if name = "if_exists" then some "fail"
      else if name = "database" then some (Numeral.text id)
      else if name = kind.tableField then some "data" else none := by
  simp [plain, NameTable.ofList]

theorem filesFor_plain (kind : Kind) (id : Int) :
    (plain kind id).filesFor kind.fileField = ["data." ++ kind.extension] := by
  simp [plain, Submission.filesFor]

theorem shapeErrors_plain (kind : Kind) (id : Int) : (plain kind id).shapeErrors = [] := by
  cases kind <;> rfl

theorem hasExtension_plain (kind : Kind) :
    HasExtension ("data." ++ kind.extension) kind.extension := by
  rw [← fileExtension_eq_some_iff]
  cases kind <;> decide

theorem takesFiles_plain (hextension : kind.extension ∈ settings.extensionsFor kind) :
    TakesFiles (settings.extensionsFor kind) kind ["data." ++ kind.extension] := by
  have hallowed : ∃ extension ∈ settings.extensionsFor kind,
      HasExtension ("data." ++ kind.extension) extension :=
    ⟨_, hextension, hasExtension_plain kind⟩
  cases kind with
  | csv | excel => exact ⟨_, rfl, hallowed⟩
  | columnar => exact ⟨by simp, by simpa using hallowed⟩

theorem leftBlank_get?_plain {name : String}
    (hname : name ∉ ["if_exists", "database", kind.tableField]) :
    LeftBlank ((plain kind id).fields.get? name) := by
  have hnames : name ≠ "if_exists" ∧ name ≠ "database" ∧ name ≠ kind.tableField := by
    simpa using hname
  simp [get?_fields_plain, hnames]

/-- A plain submission fills in its form if its database is listed. -/
theorem fillsIn_plain (hrange : Numeral.InRange id) (hlisted : id ∈ databases.map Choice.id)
    (hextension : kind.extension ∈ settings.extensionsFor kind) :
    FillsIn settings kind databases (plain kind id) := by
  have htable : (plain kind id).fields.get? kind.tableField = some "data" := by
    rw [get?_fields_plain]
    cases kind <;> rfl
  have hcounts : ∀ name ∈ kind.countFields, name ∉ ["if_exists", "database", kind.tableField] := by
    cases kind <;> decide
  have hcolumns : ∀ name ∈ kind.columnsFields,
      name ∉ ["if_exists", "database", kind.tableField] := by
    cases kind <;> decide
  have hdelimiter : (plain kind id).fields.get? "delimiter" = none := by
    rw [get?_fields_plain]
    cases kind <;> rfl
  refine
    { table := ⟨"data", htable, by decide, by decide⟩
      database := ⟨Numeral.text id, id, ?_, isInteger_text hrange, hlisted⟩
      ifExists := ⟨"fail", by decide, ?_⟩
      files := ?_
      decimal := fun _ => Or.inl (leftBlank_get?_plain (by cases kind <;> decide))
      nullValues := fun _ => Or.inl (leftBlank_get?_plain (by cases kind <;> decide))
      counts := fun name hname => Or.inl (leftBlank_get?_plain (hcounts name hname))
      columns := fun name hname => Or.inl (leftBlank_get?_plain (hcolumns name hname))
      delimiter := fun _ => Or.inl hdelimiter
      typed := fun _ hother => absurd (hdelimiter.symm.trans hother) (by simp) }
  · rw [get?_fields_plain]
    rfl
  · rw [get?_fields_plain]
    rfl
  · rw [filesFor_plain]
    exact takesFiles_plain hextension

/-- The upload of a plain submission goes into the database that it is for. -/
theorem exists_validate_plain (hrange : Numeral.InRange id)
    (hlisted : id ∈ databases.map Choice.id)
    (hextension : kind.extension ∈ settings.extensionsFor kind) :
    ∃ upload, (catalog settings kind).validate databases (plain kind id) = .ok upload ∧
      upload.databaseId = id := by
  obtain ⟨upload, hupload⟩ := exists_validate_catalog (fillsIn_plain hrange hlisted hextension)
  refine ⟨upload, hupload, ?_⟩
  obtain ⟨-, text, htext, hinteger⟩ := databaseId_of_validate_catalog hupload
  have hread := isInteger_text hrange
  have hdatabase : (plain kind id).fields.get? "database" = some (Numeral.text id) := by
    rw [get?_fields_plain]
    rfl
  obtain rfl := Option.some.inj (hdatabase.symm.trans htext)
  rw [← integerOf?_eq_some_iff] at hinteger hread
  exact Option.some.inj (hinteger.symm.trans hread)

/-- The built-in settings let every form take in the files that it is for. -/
theorem extension_mem_builtIn : kind.extension ∈ UploadSettings.builtIn.extensionsFor kind := by
  cases kind <;> decide

end UploadGate.Form
