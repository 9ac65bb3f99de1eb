import UploadGate.Proofs.Form.CommaList
import UploadGate.Proofs.Form.Plain
import UploadGate.Proofs.Json.Reading

/-! # What a field need not be told

A form shows the default of a field as a text. To send that text back comes to the same as to leave
the field out: every default of the catalog is read as itself and passes its own validators. The
same holds of the texts that say no for a flag, and of blank texts for a list between commas or for
a field without default that may be left blank.
-/

namespace UploadGate.Form

/-- The text in which a value is shown: a text as it is, and any other value as JSON. -/
def Value.shown : Value → String
  | .text s => s
  | value => value.toJson.text

/-- A text tells a field no more than to leave it out. -/
inductive Field.SaysNothing (field : Field) : String → Prop
  | default {value : Value} (hdefault : field.default = some value) :
    field.SaysNothing value.shown
  | boolean {text : String} (hkind : field.kind = .input .boolean)
    (htext : text = "" ∨ text = "false") : field.SaysNothing text
  | commaList {text : String} (hkind : field.kind = .input .commaList)
    (hblank : Text.blank text = true) : field.SaysNothing text
  | optional {text : String} (hoptional : field.isOptional = true)
    (hdefault : field.default = none) (hblank : Text.blank text = true) : field.SaysNothing text

/-! ## Fields -/

/-- A default is read from the text in which it is shown, and passes the validators. -/
structure Field.Rereads (field : Field) (value : Value) : Prop where
  nonblank : Text.blank value.shown = false
  read : ∃ kind, field.kind = .input kind ∧
    ∀ databases, field.read kind databases value.shown = .ok value
  check : ∀ files, field.check files value = .ok value

/-- The default of a field, or the lack of one, agrees with how its texts are read. -/
structure Field.IsCoherent (field : Field) : Prop where
  default : ∀ value, field.default = some value → field.Rereads value
  boolean : field.kind = .input .boolean →
    field.default = none ∧ field.isOptional = false ∧ field.isRequired = false
  commaList : field.kind = .input .commaList → field.default = none

namespace Field

variable {field : Field} {kind : InputKind} {databases : List Choice} {files : List String}
  {text : String} {value : Value}

/-- A blank text is a single piece, and that carries nothing. -/
theorem commaItems_eq_nil_of_blank (h : Text.blank text = true) : commaItems text = [] :=
  commaItems_eq_iff.mpr ⟨[text], .blank h .nothing, String.intercalate_singleton⟩

theorem clean_shown_default (h : field.Rereads value) (hdefault : field.default = some value) :
    field.clean databases (some value.shown) files = field.clean databases none files := by
  obtain ⟨kind, hkind, hread⟩ := h.read
  have habsent : field.absentValue = value := by rw [absentValue, hdefault]
  rw [clean_input hkind, clean_input hkind, cleanInput_some, cleanInput_none, habsent, h.nonblank,
    hread, Except.bind, h.check]
  simp

theorem clean_boolean (hkind : field.kind = .input .boolean) (hdefault : field.default = none)
    (hoptional : field.isOptional = false) (hrequired : field.isRequired = false)
    (htext : text = "" ∨ text = "false") :
    field.clean databases (some text) files = field.clean databases none files := by
  have habsent : field.absentValue = .bool false := by simp [absentValue, hdefault, hkind]
  have hread : field.read .boolean databases text = .ok (.bool false) := by
    rcases htext with rfl | rfl <;> rfl
  rw [clean_input hkind, clean_input hkind]
  simp [cleanInput_some, cleanInput_none, hoptional, hrequired, habsent, hread, Except.bind]

theorem clean_commaList_of_blank (hkind : field.kind = .input .commaList)
    (hdefault : field.default = none) (hblank : Text.blank text = true) :
    field.clean databases (some text) files = field.clean databases none files := by
  have habsent : field.absentValue = .null := by simp [absentValue, hdefault, hkind]
  have hread : field.read .commaList databases text = .ok .null :=
    read_commaList_eq_ok_iff.mpr (Or.inl ⟨commaItems_eq_nil_of_blank hblank, rfl⟩)
  rw [clean_input hkind, clean_input hkind, cleanInput_some, cleanInput_none, habsent, hread,
    hblank, Except.bind]
  -- Only a required field does not get as far as reading the text, and refuses nothing as well.
  cases hoptional : field.isOptional with
  | true => rfl
  | false =>
    cases hrequired : field.isRequired with
    | true => simp [check, hrequired, Value.isBlank]
    | false => simp

theorem clean_optional_of_blank (hoptional : field.isOptional = true)
    (hdefault : field.default = none) (hboolean : field.kind ≠ .input .boolean)
    (hblank : Text.blank text = true) :
    field.clean databases (some text) files = field.clean databases none files := by
  have habsent : field.absentValue = .null := by simp [absentValue, hdefault, hboolean]
  cases hkind : field.kind with
  | file | files => simp only [clean, hkind]
  | input kind =>
    rw [clean_input hkind, clean_input hkind]
    simp [cleanInput_some, cleanInput_none, hoptional, hblank, habsent]

theorem clean_of_saysNothing (h : field.IsCoherent) (htext : field.SaysNothing text) :
    field.clean databases (some text) files = field.clean databases none files := by
  cases htext with
  | default hdefault => exact clean_shown_default (h.default _ hdefault) hdefault
  | boolean hkind htext =>
    obtain ⟨hdefault, hoptional, hrequired⟩ := h.boolean hkind
    exact clean_boolean hkind hdefault hoptional hrequired htext
  | commaList hkind hblank => exact clean_commaList_of_blank hkind (h.commaList hkind) hblank
  | optional hoptional hdefault hblank =>
    apply clean_optional_of_blank hoptional hdefault _ hblank
    intro hkind
    obtain ⟨-, hnot, -⟩ := h.boolean hkind
    exact absurd (hoptional.symm.trans hnot) (by simp)

end Field

/-! ## The fields of the catalog -/

namespace Field.IsCoherent

variable {field : Field} {value : Value}

theorem of_no_default (hdefault : field.default = none) (hboolean : field.kind ≠ .input .boolean) :
    field.IsCoherent where
  default := fun value hvalue => absurd (hdefault.symm.trans hvalue) (by simp)
  boolean := fun hkind => absurd hkind hboolean
  commaList := fun _ => hdefault

theorem of_rereads (hdefault : field.default = some value) (h : field.Rereads value)
    (hboolean : field.kind ≠ .input .boolean) (hcomma : field.kind ≠ .input .commaList) :
    field.IsCoherent where
  default := by
    rintro found hfound
    obtain rfl := Option.some.inj (hdefault.symm.trans hfound)
    exact h
  boolean := fun hkind => absurd hkind hboolean
  commaList := fun hkind => absurd hkind hcomma

end Field.IsCoherent

section Rows

variable {name label description : String}

theorem isCoherent_flag : (flag name label description).IsCoherent where
  default := nofun
  boolean := fun _ => ⟨rfl, rfl, rfl⟩
  commaList := fun _ => rfl

theorem isCoherent_decimal : (decimal description).IsCoherent := by
  have hrereads : (decimal description).Rereads (.text ".") :=
    { nonblank := by decide
      read := ⟨.text, rfl, fun _ => rfl⟩
      check := fun _ => rfl }
  exact .of_rereads rfl hrereads nofun nofun

theorem isCoherent_delimiter : delimiter.IsCoherent := by
  have hrereads : delimiter.Rereads (.text ",") :=
    { nonblank := by decide
      read := ⟨.select, rfl, fun _ => rfl⟩
      check := fun _ => rfl }
  exact .of_rereads rfl hrereads nofun nofun

/-- An array is shown between brackets. -/
theorem blank_shown_json (items : List Json.Value) :
    Text.blank (Value.json items).shown = false := by
  obtain ⟨rest, hrest⟩ : ∃ rest, Json.print (.array items) = '[' :: rest := by
    cases items with
    | nil => exact ⟨_, rfl⟩
    | cons => exact ⟨_, rfl⟩
  have hshown : (Value.json items).shown.toList = '[' :: rest := by
    rw [← hrest]
    exact String.toList_ofList
  rw [Text.blank, hshown]
  rfl

/-- Whatever the default names are, their list is written between brackets and read back. -/
theorem isCoherent_nullValues {names : List String} :
    (nullValues label description names).IsCoherent := by
  have harray : IsJsonArray (Value.json (names.map .string)).shown (names.map .string) :=
    Json.decode_list_string_eq_ok_iff.mp (Json.Decode.reads_strings names).decode_text
  have hrereads : (nullValues label description names).Rereads (.json (names.map .string)) :=
    { nonblank := blank_shown_json _
      read := ⟨.jsonList, rfl, fun _ =>
        Field.read_jsonList_eq_ok_iff.mpr (Or.inr ⟨blank_shown_json _, _, harray, rfl⟩)⟩
      check := fun _ => rfl }
  exact .of_rereads rfl hrereads nofun nofun

end Rows

variable {settings : UploadSettings} {kind : Kind} {form : Form} {databases : List Choice}
  {submission other : Submission} {field : Field} {text : String}

/-- Every row of the catalog is coherent. -/
theorem isCoherent_of_mem_catalog (hmem : field ∈ (catalog settings kind).fields) :
    field.IsCoherent := by
  cases isRow_of_mem_catalog hmem with
  | flag => exact isCoherent_flag
  | decimal => exact isCoherent_decimal
  | delimiter => exact isCoherent_delimiter
  | nullValues => exact isCoherent_nullValues
  | tableName | database | file | files | optionalText | optionalCount | ifExists | otherDelimiter
  | parseDates | columnNames => exact .of_no_default rfl nofun

/-! ## Submissions -/

/-- The submission with a text for a field. -/
def Submission.withText (submission : Submission) (name text : String) : Submission :=
  { submission with fields := submission.fields.insert name text }

/-- A form makes the same of two submissions of which every field makes the same. -/
theorem validate_congr_cleanField
    (h : ∀ field ∈ form.fields, cleanField databases other field =
      cleanField databases submission field) :
    form.validate databases other = form.validate databases submission := by
  have hcleaned : form.cleaned databases other = form.cleaned databases submission := by
    apply List.foldl_ext
    intro draft field hmem
    rw [h field hmem]
  rw [validate, validate, draft, draft, hcleaned]

/-- A submission that leaves a field out comes to the same as one that sends what the form shows for
it, or another text that says nothing. -/
theorem validate_withText_eq (hmem : field ∈ (catalog settings kind).fields)
    (hnothing : field.SaysNothing text) (hleft : submission.fields.get? field.name = none) :
    (catalog settings kind).validate databases (submission.withText field.name text) =
      (catalog settings kind).validate databases submission := by
  apply validate_congr_cleanField
  intro row hrow
  have hfiles : (submission.withText field.name text).filesFor = submission.filesFor := rfl
  rw [cleanField, cleanField, hfiles, Submission.withText, NameTable.get?_insert]
  split
  next hname =>
    obtain rfl : row = field := List.inj_on_of_nodup_map nodup_map_name_catalog hrow hmem hname
    rw [hleft]
    exact Field.clean_of_saysNothing (isCoherent_of_mem_catalog hmem) hnothing
  next => rfl

/-- Null names with nothing in them, with characters that are escaped, and with others. -/
def oddNames : UploadSettings :=
  { UploadSettings.builtIn with nullNames := ["", "\"n\\a\"", "零\n"] }

/-- The odd names as the form shows them. -/
def oddList : String := "[\"\",\"\\\"n\\\\a\\\"\",\"零\\n\"]"

theorem oddNames_validate_withText :
    ∃ field ∈ (catalog oddNames .csv).fields, field.name = "null_values" ∧
      field.SaysNothing oddList ∧ (plain .csv 1).fields.get? field.name = none ∧
      (catalog oddNames .csv).validate [⟨1, "warehouse"⟩]
          ((plain .csv 1).withText field.name oddList) =
        (catalog oddNames .csv).validate [⟨1, "warehouse"⟩] (plain .csv 1) := by
  obtain ⟨field, hfield, hname, hdefault⟩ :
      ∃ field, (catalog oddNames .csv).field? "null_values" = some field ∧
        field.name = "null_values" ∧
        field.default = some (.json (oddNames.nullNames.map .string)) := ⟨_, rfl, rfl, rfl⟩
  have hmem : field ∈ (catalog oddNames .csv).fields := List.mem_of_find?_eq_some hfield
  have hshown : (Value.json (oddNames.nullNames.map .string)).shown = oddList := by
    decide +kernel
  have hnothing : field.SaysNothing oddList := hshown ▸ .default hdefault
  have hleft : (plain .csv 1).fields.get? field.name = none := by
    rw [hname]
    decide +kernel
  exact ⟨field, hmem, hname, hnothing, hleft, validate_withText_eq hmem hnothing hleft⟩

end UploadGate.Form
