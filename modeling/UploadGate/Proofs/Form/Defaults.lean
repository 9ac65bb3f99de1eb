import UploadGate.Proofs.Form.Locality
import UploadGate.Proofs.Form.Widening

/-! # Choices and defaults

A field to choose from has options, or the databases on offer. What is typed in for it is looked up
among them. A default is not: where nothing is sent for the field, its default becomes the value as
it stands. So the values of such fields are on offer exactly as far as the defaults are that have to
stand in.
-/

namespace UploadGate.Form

/-- What a field to choose from has on offer, besides being left blank. -/
inductive Field.Offers (field : Field) (databases : List Choice) : Value → Prop
  | blank : field.Offers databases .null
  | option {option : SelectOption} (hkind : field.kind = .input .select)
    (hmem : option ∈ field.options) : field.Offers databases (.text option.value)
  | database {id : Int} (hkind : field.kind = .input .database)
    (hmem : id ∈ databases.map Choice.id) : field.Offers databases (.integer id)

/-- Where a default stands in for a field that was left out, it is on offer. -/
def Field.DefaultsToOffer (field : Field) (databases : List Choice) (submission : Submission) :
    Prop :=
  submission.fields.get? field.name = none →
    ∀ value, field.default = some value → field.Offers databases value

namespace Field

variable {field : Field} {kind : InputKind} {databases : List Choice} {files : List String}
  {raw : Option String} {text : String} {value : Value} {id : Int}

theorem not_offers_text (hkind : field.kind = .input .database) :
    ¬ field.Offers databases (.text text) := by
  intro hoffers
  cases hoffers with
  | option hselect =>
    rw [hkind] at hselect
    exact absurd hselect (by decide)

theorem offers_integer_iff (hkind : field.kind = .input .database) :
    field.Offers databases (.integer id) ↔ id ∈ databases.map Choice.id := by
  constructor
  · intro hoffers
    cases hoffers with
    | database _ hmem => exact hmem
  · exact .database hkind

/-- A text that is typed in is not taken for what it says unless it is read. -/
theorem cleanInput_some_eq_ok (h : field.cleanInput kind databases files (some text) = .ok value) :
    value = .null ∨ field.read kind databases text = .ok value := by
  simp only [cleanInput] at h
  split at h
  next => exact Or.inl (Except.ok.inj h).symm
  next =>
    split at h
    next => exact absurd h (by simp)
    next =>
      obtain ⟨found, hread, hcheck⟩ := bind_check_eq_ok_iff.mp h
      rw [(check_eq_ok_iff.mp hcheck).1]
      exact Or.inr hread

theorem cleanInput_none_eq_ok (h : field.cleanInput kind databases files none = .ok value) :
    value = field.absentValue := by
  rw [cleanInput] at h
  split at h
  · exact (Except.ok.inj h).symm
  · exact (check_eq_ok_iff.mp h).1

/-- What is typed in for a field to choose from is on offer, or nothing at all. -/
theorem offers_of_clean_some (hkind : field.kind = .input kind)
    (hchoice : kind = .select ∨ kind = .database)
    (h : field.clean databases (some text) files = .ok value) : field.Offers databases value := by
  rw [clean_input hkind] at h
  rcases cleanInput_some_eq_ok h with rfl | hread
  · exact .blank
  · rcases hchoice with rfl | rfl
    · obtain ⟨hmem, rfl⟩ := read_select_eq_ok_iff.mp hread
      obtain ⟨option, hoption, rfl⟩ := List.mem_map.mp hmem
      exact .option hkind hoption
    · obtain ⟨id, -, hmem, rfl⟩ := read_database_eq_ok_iff.mp hread
      exact .database hkind hmem

/-- The value of a field to choose from that was left out is its default, if it has one. -/
theorem offers_iff_of_clean_none (hkind : field.kind = .input kind)
    (hchoice : kind = .select ∨ kind = .database)
    (h : field.clean databases none files = .ok value) :
    field.Offers databases value ↔
      ∀ found, field.default = some found → field.Offers databases found := by
  rw [clean_input hkind] at h
  obtain rfl := cleanInput_none_eq_ok h
  unfold absentValue
  cases field.default with
  | some found => simp
  | none =>
    have hboolean : field.kind ≠ .input .boolean := by
      rw [hkind]
      rcases hchoice with rfl | rfl <;> decide
    have hblank : field.Offers databases .null := .blank
    simp [hboolean, hblank]

end Field

variable {form : Form} {databases : List Choice} {submission : Submission} {upload : Upload}
  {field : Field} {kind : InputKind} {value : Value}

theorem offers_iff_of_cleanField (hkind : field.kind = .input kind)
    (hchoice : kind = .select ∨ kind = .database)
    (h : cleanField databases submission field = .ok value) :
    field.Offers databases value ↔ field.DefaultsToOffer databases submission := by
  rw [cleanField] at h
  unfold Field.DefaultsToOffer
  cases hraw : submission.fields.get? field.name with
  | none =>
    rw [hraw] at h
    simpa using Field.offers_iff_of_clean_none hkind hchoice h
  | some text =>
    rw [hraw] at h
    simpa using Field.offers_of_clean_some hkind hchoice h

/-- Every field of an accepted submission has a value by itself. -/
theorem exists_cleanField_of_validate (h : form.validate databases submission = .ok upload)
    (hmem : field ∈ form.fields) :
    ∃ found, cleanField databases submission field = .ok found := by
  have hempty := isEmpty_problems_cleaned_of_draft (validate_eq_ok_iff.mp h).1
  exact isEmpty_problems_cleaned_iff.mp hempty field hmem

/-- A field to choose from, the delimiter of a form for CSV files aside, which may be typed in. -/
def IsChoice (form : Form) (field : Field) : Prop :=
  field.kind = .input .select ∧ ¬ (form.kind = .csv ∧ field.name = "delimiter") ∨
    field.kind = .input .database

theorem exists_value_of_isChoice (hdistinct : (form.fields.map Field.name).Nodup)
    (h : form.validate databases submission = .ok upload) (hmem : field ∈ form.fields)
    (hchoice : form.IsChoice field) :
    ∃ value, upload.values.get? field.name = some value ∧
      (field.Offers databases value ↔ field.DefaultsToOffer databases submission) := by
  obtain ⟨found, hfound⟩ := exists_cleanField_of_validate h hmem
  obtain ⟨kind, hkind, hread⟩ :
      ∃ kind, field.kind = .input kind ∧ (kind = .select ∨ kind = .database) := by
    rcases hchoice with ⟨hselect, -⟩ | hdatabase
    · exact ⟨.select, hselect, Or.inl rfl⟩
    · exact ⟨.database, hdatabase, Or.inr rfl⟩
  have hoffers := offers_iff_of_cleanField hkind hread hfound
  have hown : form.ownValue? databases submission field.name = some found := by
    rw [ownValue?, field?_name_of_mem hdistinct hmem, Option.bind_some, hfound]
    rfl
  have hvalues := ((isFieldwise_of_nodup hdistinct).accepted upload).mp h
  rw [hvalues.2.2.2.2 field.name, givenValue?]
  split
  next htyped =>
    -- The field is a database that bears the name of the delimiter, and only its default can be
    -- the text that asks for another one.
    obtain ⟨hname, hasks⟩ := htyped
    obtain ⟨hcsv, hother⟩ : form.kind = .csv ∧
        form.ownText? databases submission "delimiter" = some "other" := by
      simpa [asksForDelimiter] using hasks
    have hdatabase : field.kind = .input .database :=
      hchoice.resolve_left fun hselect => hselect.2 ⟨hcsv, hname⟩
    rw [ownText?, ← hname, hown, Option.bind_some] at hother
    obtain rfl : found = .text "other" := by
      cases found <;> simp_all [Value.text?]
    have hnot : ¬ field.DefaultsToOffer databases submission :=
      fun hdefault => Field.not_offers_text hdatabase (hoffers.mpr hdefault)
    cases htext : form.typedDelimiter? databases submission with
    | some text =>
      refine ⟨.text text, rfl, iff_of_false ?_ hnot⟩
      exact Field.not_offers_text hdatabase
    | none =>
      -- The want of a delimiter would have been reported.
      have hreported := hvalues.1 "otherInput"
      rw [reported, if_pos ⟨rfl, hasks, htext⟩] at hreported
      exact absurd hreported (by simp)
  next => exact ⟨found, hown, hoffers⟩

/-- In an accepted submission the value of a field to choose from is on offer exactly if its default
is, wherever the default stands in for a field that was left out; and the database of the upload is
on offer exactly if its field has no other default to stand in. -/
theorem offers_iff_of_validate (hdistinct : (form.fields.map Field.name).Nodup)
    (h : form.validate databases submission = .ok upload) :
    (∀ field ∈ form.fields, form.IsChoice field →
      ∃ value, upload.values.get? field.name = some value ∧
        (field.Offers databases value ↔ field.DefaultsToOffer databases submission)) ∧
      ∀ field ∈ form.fields, field.name = "database" → field.kind = .input .database →
        (upload.databaseId ∈ databases.map Choice.id ↔
          field.DefaultsToOffer databases submission) := by
  refine ⟨fun field => exists_value_of_isChoice hdistinct h, ?_⟩
  intro field hmem hname hkind
  obtain ⟨value, hvalue, hoffers⟩ := exists_value_of_isChoice hdistinct h hmem (Or.inr hkind)
  obtain ⟨-, id, hid, rfl⟩ := validate_eq_ok_iff.mp h
  have hinteger : value = .integer id := by
    rw [hname] at hvalue
    rw [Draft.databaseId?, hvalue, Option.bind_some] at hid
    cases value <;> simp_all [Value.integer?]
  rw [← hoffers, hinteger, Field.offers_integer_iff hkind]

/-- A database that is chosen already, whatever is on offer. -/
def presetDatabase : Field :=
  { name := "database", label := "Database", kind := .input .database,
    default := some (.integer 99) }

def presetForm : Form := ⟨.columnar, [presetDatabase]⟩

/-- The only database on offer is another one. -/
def onlyWarehouse : List Choice := [⟨1, "warehouse"⟩]

theorem exists_validate_presetForm :
    ∃ upload, presetForm.validate onlyWarehouse ∅ = .ok upload ∧ upload.databaseId = 99 :=
  ⟨_, rfl, rfl⟩

theorem presetForm_offers_iff :
    ∃ upload, (presetForm.fields.map Field.name).Nodup ∧
      presetForm.validate onlyWarehouse ∅ = .ok upload ∧ upload.databaseId = 99 ∧
      (99 ∈ onlyWarehouse.map Choice.id ↔ presetDatabase.DefaultsToOffer onlyWarehouse ∅) := by
  obtain ⟨upload, hupload, hid⟩ := exists_validate_presetForm
  have hdistinct : (presetForm.fields.map Field.name).Nodup := by decide
  have htarget := (offers_iff_of_validate hdistinct hupload).2 presetDatabase (by simp [presetForm])
    rfl rfl
  rw [hid] at htarget
  exact ⟨upload, hdistinct, hupload, hid, htarget⟩

/-- A default gets past the databases on offer. -/
theorem unlisted_default_is_accepted :
    ¬ ∀ (form : Form) (databases : List Choice) (submission : Submission) (upload : Upload),
      (form.fields.map Field.name).Nodup → form.validate databases submission = .ok upload →
        (∀ field ∈ form.fields, form.IsChoice field →
          ∃ value, upload.values.get? field.name = some value ∧ field.Offers databases value) ∧
        ∀ field ∈ form.fields, field.name = "database" → field.kind = .input .database →
          upload.databaseId ∈ databases.map Choice.id := by
  intro hkeeps
  obtain ⟨upload, hupload, hid⟩ := exists_validate_presetForm
  have htarget := (hkeeps presetForm onlyWarehouse ∅ upload (by decide) hupload).2 presetDatabase
    (by simp [presetForm]) rfl rfl
  rw [hid] at htarget
  exact absurd htarget (by decide)

end UploadGate.Form
