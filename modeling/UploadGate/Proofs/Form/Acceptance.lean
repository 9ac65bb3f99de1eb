import UploadGate.Proofs.Form.FillingIn

/-! # The submissions that the forms take in

A form of the catalog takes in a submission exactly if the submission fills it in. The upload then
goes into the database and the schema that were asked for.
-/

namespace UploadGate.Form

variable {settings : UploadSettings} {kind : Kind} {databases : List Choice}
  {submission : Submission}

/-! ## The draft -/

/-- A clean field of a form has its value in the draft. -/
theorem exists_get?_values_cleaned {name : String} {field : Field}
    (hfield : (catalog settings kind).field? name = some field)
    (hclean : IsClean databases submission field) :
    ∃ value, cleanField databases submission field = .ok value ∧
      ((catalog settings kind).cleaned databases submission).values.get? name = some value := by
  obtain ⟨value, hvalue⟩ := hclean
  refine ⟨value, hvalue, ?_⟩
  rw [get?_values_cleaned nodup_map_name_catalog, hfield, Option.bind_some, hvalue]
  rfl

/-- The second field of the delimiter is read as it is. -/
theorem text?_cleaned_otherInput :
    ((catalog settings .csv).cleaned databases submission).text? "otherInput" =
      submission.fields.get? "otherInput" := by
  have hfield : (catalog settings .csv).field? "otherInput" = some otherDelimiter := rfl
  have hclean : IsClean databases submission otherDelimiter := isClean_otherDelimiter
  obtain ⟨value, hvalue, hget⟩ := exists_get?_values_cleaned hfield hclean
  rw [cleanField, clean_otherDelimiter, Except.ok.injEq] at hvalue
  rw [Draft.text?, hget, ← hvalue, name_otherDelimiter]
  cases submission.fields.get? "otherInput" <;> rfl

/-- The delimiter is "other" only if it was chosen, for the default is another one. -/
theorem text?_cleaned_delimiter_eq_iff (hclean : IsClean databases submission delimiter) :
    ((catalog settings .csv).cleaned databases submission).text? "delimiter" = some "other" ↔
      submission.fields.get? "delimiter" = some "other" := by
  have hfield : (catalog settings .csv).field? "delimiter" = some delimiter := rfl
  obtain ⟨value, hvalue, hget⟩ := exists_get?_values_cleaned hfield hclean
  rw [Draft.text?, hget, Option.bind_some]
  rw [cleanField, clean_delimiter_eq_ok_iff, name_delimiter] at hvalue
  rcases hvalue with ⟨hraw, rfl⟩ | ⟨text, -, hraw, rfl⟩
  · -- Nothing was chosen, and the value is the comma.
    rw [hraw]
    decide
  · rw [hraw]
    rfl

/-- A draft is without problems exactly if the submission fills in the form. -/
theorem isEmpty_problems_draft_iff :
    ((catalog settings kind).draft databases submission).problems.isEmpty = true ↔
      FillsIn settings kind databases submission := by
  rw [fillsIn_iff, draft]
  -- Only the form for CSV files looks at a field again after all of them are cleaned.
  by_cases hkind : kind = .csv
  · subst hkind
    have hcsv : (catalog settings .csv).kind = .csv := rfl
    rw [if_pos hcsv, Draft.isEmpty_problems_resolveDelimiter_iff, isEmpty_problems_cleaned_iff]
    apply and_congr_right
    intro hclean
    have hdelimiter : IsClean databases submission delimiter := by
      apply hclean
      simp [catalog, catalogFields, csvFields]
    rw [text?_cleaned_otherInput, text?_cleaned_delimiter_eq_iff hdelimiter]
    simp [TypesDelimiter]
  · have hother : (catalog settings kind).kind ≠ .csv := hkind
    have htyped : TypesDelimiter kind submission := fun hcsv => absurd hcsv hkind
    rw [if_neg hother, isEmpty_problems_cleaned_iff]
    exact ⟨fun hclean => ⟨hclean, htyped⟩, And.left⟩

/-- The value of the database field is the id of the listed database that was asked for. -/
theorem databaseId?_draft (h : FillsIn settings kind databases submission) :
    ∃ text id, submission.fields.get? "database" = some text ∧ IsInteger text id ∧
      id ∈ databases.map Choice.id ∧
      ((catalog settings kind).draft databases submission).databaseId? = some id := by
  obtain ⟨text, id, htext, hinteger, hlisted⟩ := h.database
  obtain ⟨description, hfield⟩ := exists_field?_database settings kind
  have hvalue : cleanField databases submission (database description) = .ok (.integer id) := by
    rw [cleanField, clean_database_eq_ok_iff, name_database]
    exact ⟨text, id, htext, hinteger, hlisted, rfl⟩
  refine ⟨text, id, htext, hinteger, hlisted, ?_⟩
  rw [Draft.databaseId?, get?_values_draft nodup_map_name_catalog (by decide), hfield,
    Option.bind_some, hvalue]
  rfl

/-- The schema of the upload is what was typed in, trimmed, if anything was. -/
theorem schema?_draft :
    ((catalog settings kind).draft databases submission).schema? =
      ((submission.fields.get? "schema").map Text.trim).filter (· ≠ "") := by
  obtain ⟨label, description, hfield⟩ := exists_field?_schema settings kind
  obtain ⟨value, hvalue⟩ : IsClean databases submission (optionalText "schema" label description) :=
    isClean_optionalText
  rw [Draft.schema?, Draft.text?, get?_values_draft nodup_map_name_catalog (by decide), hfield,
    Option.bind_some, hvalue]
  rw [cleanField, clean_optionalText_eq_ok_iff] at hvalue
  rcases hvalue with ⟨hblank, rfl⟩ | ⟨text, hraw, -, rfl⟩
  · cases hraw : submission.fields.get? "schema" with
    | none => rfl
    | some text =>
      have hempty : Text.trim text = "" := Text.blank_iff_trim_eq_empty.mp (hblank text hraw)
      rw [Option.map_some, hempty]
      rfl
  · change submission.fields.get? "schema" = some text at hraw
    rw [hraw]
    rfl

/-! ## The outcome -/

theorem fillsIn_of_validate_catalog {upload : Upload}
    (h : (catalog settings kind).validate databases submission = .ok upload) :
    FillsIn settings kind databases submission :=
  isEmpty_problems_draft_iff.mp (validate_eq_ok_iff.mp h).1

theorem exists_validate_catalog (h : FillsIn settings kind databases submission) :
    ∃ upload, (catalog settings kind).validate databases submission = .ok upload := by
  obtain ⟨-, id, -, -, -, hid⟩ := databaseId?_draft h
  have hempty := isEmpty_problems_draft_iff.mpr h
  exact ⟨_, validate_eq_ok_iff.mpr ⟨hempty, id, hid, rfl⟩⟩

/-- The database of an accepted submission is the listed one that was asked for. -/
theorem databaseId_of_validate_catalog {upload : Upload}
    (h : (catalog settings kind).validate databases submission = .ok upload) :
    upload.databaseId ∈ databases.map Choice.id ∧
      ∃ text, submission.fields.get? "database" = some text ∧ IsInteger text upload.databaseId := by
  obtain ⟨text, found, htext, hinteger, hlisted, hfound⟩ :=
    databaseId?_draft (fillsIn_of_validate_catalog h)
  obtain ⟨-, id, hid, rfl⟩ := validate_eq_ok_iff.mp h
  obtain rfl := Option.some.inj (hid.symm.trans hfound)
  exact ⟨hlisted, text, htext, hinteger⟩

theorem schema_of_validate_catalog {upload : Upload}
    (h : (catalog settings kind).validate databases submission = .ok upload) :
    upload.schema = ((submission.fields.get? "schema").map Text.trim).filter (· ≠ "") := by
  obtain ⟨-, id, -, rfl⟩ := validate_eq_ok_iff.mp h
  exact schema?_draft

theorem form_of_validate_catalog {upload : Upload}
    (h : (catalog settings kind).validate databases submission = .ok upload) :
    upload.form = kind := by
  obtain ⟨-, id, -, rfl⟩ := validate_eq_ok_iff.mp h
  rfl

/-- A form of the catalog takes in exactly the submissions that fill it in. -/
theorem catalog_accepts_iff_fillsIn (settings : UploadSettings) (kind : Kind)
    (databases : List Choice) (submission : Submission) :
    (∃ upload, (catalog settings kind).validate databases submission = .ok upload) ↔
      FillsIn settings kind databases submission := by
  constructor
  · rintro ⟨upload, h⟩
    exact fillsIn_of_validate_catalog h
  · exact exists_validate_catalog

/-- A submission that asks for the column before the first one as the row labels. -/
def negativeColumn : Submission where
  fields := .ofList
    [("table_name", "sales"), ("database", "1"), ("if_exists", "fail"), ("index_col", "-1")]
  files := [⟨"csv_file", "sales.csv"⟩]

/-- The key fields of a form do not decide alone, for every other field has its say. -/
theorem fillsKeyFields_does_not_suffice :
    ¬ ∀ (settings : UploadSettings) (kind : Kind) (databases : List Choice)
      (submission : Submission),
      (∃ upload, (catalog settings kind).validate databases submission = .ok upload) ↔
        FillsKeyFields settings kind databases submission := by
  intro hall
  have hextension : HasExtension "sales.csv" "csv" := fileExtension_eq_some_iff.mp (by decide)
  have hallowed : "csv" ∈ UploadSettings.builtIn.extensionsFor .csv := by decide
  have hid : IsInteger "1" 1 := integerOf?_eq_some_iff.mp (by decide)
  -- Nothing is wrong with the key fields, but an index must not be negative.
  have hkey : FillsKeyFields .builtIn .csv [⟨1, "warehouse"⟩] negativeColumn :=
    { table := ⟨"sales", by decide, by decide, by decide⟩
      database := ⟨"1", 1, by decide, hid, by decide⟩
      ifExists := ⟨"fail", by decide, by decide⟩
      files := ⟨"sales.csv", by decide, "csv", hallowed, hextension⟩
      decimal := fun _ => Or.inl leftBlank_none
      nullValues := fun _ => Or.inl leftBlank_none }
  obtain ⟨upload, hupload⟩ := (hall _ _ _ _).mpr hkey
  have hrefused : ((catalog .builtIn .csv).validate [⟨1, "warehouse"⟩] negativeColumn).toOption =
      none := by rfl
  rw [hupload] at hrefused
  exact absurd hrefused (by simp [Except.toOption])

end UploadGate.Form
