import UploadGate.Form.Cleaning
import UploadGate.Proofs.Form.Validator
import UploadGate.Proofs.Json.Arrays
import UploadGate.Proofs.Number.Denotation

/-! # When a field is clean

What each kind of input reads, what a check lets pass, and which raw texts a field takes in, by
whether it may be left blank. An optional field takes its value for a missing text unchecked, while
every other field checks it.
-/

namespace UploadGate.Form

/-- Nothing was typed in: the text is missing, empty or white space alone. -/
def LeftBlank (raw : Option String) : Prop := ∀ text, raw = some text → Text.blank text = true

@[simp] theorem leftBlank_none : LeftBlank none := by simp [LeftBlank]

@[simp] theorem leftBlank_some {text : String} :
    LeftBlank (some text) ↔ Text.blank text = true := by
  simp [LeftBlank]

/-- A text with white space around it is a numeral of an integer of 64 bits. -/
def IsInteger (text : String) (n : Int) : Prop :=
  Numeral.Denotes (Text.trim text).toList n ∧ Numeral.InRange n

theorem integerOf?_eq_some_iff {text : String} {n : Int} :
    integerOf? text = some n ↔ IsInteger text n :=
  Numeral.signed?_eq_some_iff

/-- A numeral is not blank. -/
theorem IsInteger.blank_eq_false {text : String} {n : Int} (h : IsInteger text n) :
    Text.blank text = false := by
  rw [Bool.eq_false_iff]
  intro hblank
  have hempty : Text.trim text = "" := Text.blank_iff_trim_eq_empty.mp hblank
  have hdenotes := h.1
  rw [hempty] at hdenotes
  cases hdenotes with
  | plain hrun => exact hrun.1 rfl

/-- The numeral that is written for an integer is read back. -/
theorem isInteger_text {n : Int} (h : Numeral.InRange n) : IsInteger (Numeral.text n) n := by
  rw [← integerOf?_eq_some_iff, integerOf?, Numeral.trim_text, Numeral.text, String.toList_ofList]
  exact Numeral.signed?_ofInt h

/-- A text is JSON, and its value is an array of the items. -/
def IsJsonArray (text : String) (items : List Json.Value) : Prop :=
  Json.Value.ofText? text = some (.array items)

theorem jsonItems?_eq_some_iff {text : String} {items : List Json.Value} :
    jsonItems? text = some items ↔ IsJsonArray text items := by
  rw [IsJsonArray, ← Json.decode_anyList_eq_ok_iff, jsonItems?, Json.toOption_eq_some_iff]

/-- An item of a list between commas: not empty, without white space around it and without comma. -/
structure IsItem (item : String) : Prop where
  trimmed : Text.trim item = item
  nonempty : item ≠ ""
  comma : ',' ∉ item.toList

theorem isItem_trim {piece : String} (hcomma : ',' ∉ piece.toList) (hne : Text.trim piece ≠ "") :
    IsItem (Text.trim piece) where
  trimmed := Text.trim_trim piece
  nonempty := hne
  comma hmem := by
    rw [Text.toList_trim] at hmem
    exact hcomma (Text.mem_of_mem_strip hmem)

theorem isItem_of_mem_commaItems {text item : String} (h : item ∈ commaItems text) :
    IsItem item := by
  simp only [commaItems, List.mem_filter, List.mem_map, decide_eq_true_eq] at h
  obtain ⟨⟨piece, hpiece, rfl⟩, hne⟩ := h
  have hcomma : ',' ∉ (String.ofList piece).toList := by
    rw [String.toList_ofList]
    exact Text.not_mem_of_mem_split hpiece
  have htrim : Text.trim (.ofList piece) = .ofList (Text.strip Text.isBlank piece) := by
    rw [Text.trim, String.toList_ofList]
  rw [← htrim] at hne ⊢
  exact isItem_trim hcomma hne

namespace Field

variable {field : Field} {kind : InputKind} {databases : List Choice} {files : List String}
  {raw : Option String} {text : String} {value : Value}

/-! ## Reading -/

theorem read_text : field.read .text databases text = .ok (.text text) := rfl

theorem read_select_eq_ok_iff :
    field.read .select databases text = .ok value ↔
      text ∈ field.options.map SelectOption.value ∧ value = .text text := by
  rw [read]
  cases hfound : field.options.find? (·.value = text) with
  | none =>
    have hnone : text ∉ field.options.map SelectOption.value := by
      intro hmem
      obtain ⟨option, hoption, hvalue⟩ := List.mem_map.mp hmem
      have := List.find?_eq_none.mp hfound option hoption
      simp [hvalue] at this
    simp [hnone]
  | some option =>
    have hvalue : option.value = text := by simpa using List.find?_some hfound
    have hmem := List.mem_map_of_mem (f := SelectOption.value) (List.mem_of_find?_eq_some hfound)
    rw [hvalue] at hmem
    simp [hmem, hvalue, eq_comm]

theorem read_database_eq_ok_iff :
    field.read .database databases text = .ok value ↔
      ∃ id, IsInteger text id ∧ id ∈ databases.map Choice.id ∧ value = .integer id := by
  rw [read]
  cases hfound : (integerOf? text).filter fun id => databases.any (·.id = id) with
  | none =>
    have hnone : ¬ ∃ id, IsInteger text id ∧ id ∈ databases.map Choice.id ∧
        value = .integer id := by
      rintro ⟨id, hinteger, hmem, -⟩
      rw [integerOf?_eq_some_iff.mpr hinteger, Option.filter_some] at hfound
      obtain ⟨choice, hchoice, rfl⟩ := List.mem_map.mp hmem
      have hany : databases.any (·.id = choice.id) = true :=
        List.any_eq_true.mpr ⟨choice, hchoice, by simp⟩
      simp [hany] at hfound
    exact iff_of_false (by simp) hnone
  | some id =>
    obtain ⟨hread, hlisted⟩ := Option.filter_eq_some_iff.mp hfound
    rw [integerOf?_eq_some_iff] at hread
    have hmem : id ∈ databases.map Choice.id := by simpa using hlisted
    constructor
    · intro h
      exact ⟨id, hread, hmem, (Except.ok.inj h).symm⟩
    · rintro ⟨id', hread', -, rfl⟩
      rw [← integerOf?_eq_some_iff] at hread hread'
      rw [Option.some.inj (hread.symm.trans hread')]

theorem read_boolean :
    field.read .boolean databases text = .ok (.bool (text ≠ "" && text ≠ "false")) := rfl

theorem read_integer_eq_ok_iff :
    field.read .integer databases text = .ok value ↔
      ∃ n, IsInteger text n ∧ value = .integer n := by
  simp only [read, ← integerOf?_eq_some_iff]
  cases integerOf? text <;> simp [eq_comm]

/-- A list between commas without items counts as nothing. -/
theorem read_commaList_eq_ok_iff :
    field.read .commaList databases text = .ok value ↔
      commaItems text = [] ∧ value = .null ∨
        commaItems text ≠ [] ∧ value = .list (commaItems text) := by
  rw [read_commaList]
  cases commaItems text <;> simp [Value.ofItems, eq_comm]

theorem read_jsonList_eq_ok_iff :
    field.read .jsonList databases text = .ok value ↔
      Text.blank text = true ∧ value = .json [] ∨
        Text.blank text = false ∧ ∃ items, IsJsonArray text items ∧ value = .json items := by
  simp only [read, ← jsonItems?_eq_some_iff]
  cases hblank : Text.blank text with
  | true => simp [eq_comm]
  | false => cases jsonItems? text <;> simp [eq_comm]

/-! ## Checking -/

theorem check_eq_ok_iff {checked : Value} :
    field.check files value = .ok checked ↔
      checked = value ∧ ¬ (field.isRequired = true ∧ value.isBlank = true) ∧
        ¬ (field.kind = .input .database ∧ value.integer? = none) ∧
        ∀ validator ∈ field.validators, validator.problem? value files = none := by
  unfold check
  split
  next hrequired =>
    rw [Bool.and_eq_true] at hrequired
    simp [hrequired]
  next hrequired =>
    rw [Bool.and_eq_true] at hrequired
    split
    next hdatabase => simp [hdatabase]
    next hdatabase =>
      split
      next problem hproblem =>
        obtain ⟨validator, hmem, hfound⟩ := List.exists_of_findSome?_eq_some hproblem
        have hnot : ¬ ∀ validator ∈ field.validators, validator.problem? value files = none := by
          intro hall
          rw [hall validator hmem] at hfound
          exact absurd hfound (by simp)
        simp [hnot]
      next hnone =>
        rw [List.findSome?_eq_none_iff] at hnone
        exact ⟨fun h => ⟨(Except.ok.inj h).symm, hrequired, hdatabase, hnone⟩, fun h => by rw [h.1]⟩

theorem check_of_not_required {checked : Value} (hrequired : field.isRequired = false)
    (hkind : field.kind ≠ .input .database) :
    field.check files value = .ok checked ↔
      (∀ validator ∈ field.validators, validator.problem? value files = none) ∧
        checked = value := by
  simp [check_eq_ok_iff, hrequired, hkind, and_comm]

theorem check_of_required {checked : Value} (hrequired : field.isRequired = true)
    (hkind : field.kind ≠ .input .database) :
    field.check files value = .ok checked ↔
      value.isBlank = false ∧
        (∀ validator ∈ field.validators, validator.problem? value files = none) ∧
          checked = value := by
  simp only [check_eq_ok_iff, hrequired, hkind, true_and, false_and, not_false_eq_true,
    Bool.not_eq_true, @and_comm (checked = value), and_assoc]

theorem bind_check_eq_ok_iff {outcome : Except Problem Value} :
    outcome.bind (field.check files) = .ok value ↔
      ∃ found, outcome = .ok found ∧ field.check files found = .ok value := by
  cases outcome <;> simp [Except.bind]

/-! ## Presence -/

theorem clean_input (hkind : field.kind = .input kind) :
    field.clean databases raw files = field.cleanInput kind databases files raw := by
  rw [clean, hkind]

/-- A field that may be left blank. -/
theorem cleanInput_of_optional (hoptional : field.isOptional = true) :
    field.cleanInput kind databases files raw = .ok value ↔
      raw = none ∧ value = field.absentValue ∨
        ∃ text, raw = some text ∧ (Text.blank text = true ∧ value = .null ∨
          Text.blank text = false ∧ ∃ found, field.read kind databases text = .ok found ∧
            field.check files found = .ok value) := by
  cases raw with
  | none => simp [cleanInput_none, hoptional, @eq_comm _ value]
  | some text =>
    -- A blank text has no value, and is neither read nor checked.
    cases hblank : Text.blank text with
    | true => simp [cleanInput_some, hoptional, hblank, @eq_comm _ value]
    | false => simp [cleanInput_some, hblank, bind_check_eq_ok_iff]

/-- A field that may not be left blank. -/
theorem cleanInput_of_required (hoptional : field.isOptional = false)
    (hrequired : field.isRequired = true) :
    field.cleanInput kind databases files raw = .ok value ↔
      raw = none ∧ field.check files field.absentValue = .ok value ∨
        ∃ text, raw = some text ∧ Text.blank text = false ∧
          ∃ found, field.read kind databases text = .ok found ∧
            field.check files found = .ok value := by
  cases raw with
  | none => simp [cleanInput_none, hoptional]
  | some text =>
    cases hblank : Text.blank text with
    | true => simp [cleanInput_some, hoptional, hrequired, hblank]
    | false => simp [cleanInput_some, hblank, bind_check_eq_ok_iff]

/-- A field of which nothing is said about blanks reads them like any other text. -/
theorem cleanInput_of_neither (hoptional : field.isOptional = false)
    (hrequired : field.isRequired = false) :
    field.cleanInput kind databases files raw = .ok value ↔
      raw = none ∧ field.check files field.absentValue = .ok value ∨
        ∃ text, raw = some text ∧ ∃ found, field.read kind databases text = .ok found ∧
          field.check files found = .ok value := by
  cases raw with
  | none => simp [cleanInput_none, hoptional]
  | some text => simp [cleanInput_some, hoptional, hrequired, bind_check_eq_ok_iff]

/-- A field of files that must not be empty. -/
theorem cleanFiles_of_required (hrequired : field.isRequired = true) :
    field.cleanFiles files = .ok value ↔
      files ≠ [] ∧ field.check files (.list files) = .ok value := by
  unfold cleanFiles
  split
  next hempty => simp [hempty]
  next hempty => simp [hempty]

end Field

end UploadGate.Form
