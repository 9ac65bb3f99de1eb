import UploadGate.Json.Decode
import UploadGate.Proofs.Outcome

/-! # JSON texts of arrays

A text decodes if its scan does and nothing follows it. Reading a list of values of any shape takes
in exactly the JSON texts whose value is an array, and reading a list of strings those whose value
is an array of strings.
-/

namespace UploadGate.Json

theorem toOption_eq_some_iff {ε α : Type} {outcome : Except ε α} {found : α} :
    outcome.toOption = some found ↔ outcome = .ok found := by
  cases outcome <;> simp [Except.toOption]

theorem decode_eq_ok_iff {α : Type} {decoder : Decoder α} {text : String} {found : α} :
    decode decoder text = .ok found ↔
      decoder (Scan.ofText text).1 = .ok found ∧ (Scan.ofText text).2 = false := by
  unfold decode
  generalize Scan.ofText text = scanned
  obtain ⟨scan, trailing⟩ := scanned
  rw [bind_eq_ok_iff]
  cases trailing with
  | true => simp [throw_ne_ok]
  | false => simp [pure, Except.pure]

namespace Decode

variable {levels : Nat} {scan : Scan} {items : List Value} {s : String}

/-- A value that was read from an array is an array. -/
theorem exists_array_of_value {scans : List Scan} {found : Value}
    (h : value levels (.array scans) = .ok found) : ∃ items, found = .array items := by
  cases levels with
  | zero => exact absurd h (by simp [value])
  | succ levels =>
    rw [value_array, map_eq_ok_iff] at h
    obtain ⟨items, -, rfl⟩ := h
    exact ⟨items, rfl⟩

/-- A value that was read from an object is an object. -/
theorem exists_object_of_value {scans : List (Option String × Scan)} {closed : Bool}
    {found : Value} (h : value levels (.object scans closed) = .ok found) :
    ∃ members, found = .object members := by
  cases levels with
  | zero => exact absurd h (by simp [value])
  | succ levels =>
    rw [value_object, bind_eq_ok_iff] at h
    obtain ⟨members, -, h⟩ := h
    split at h
    next => exact ⟨_, (Except.ok.inj h).symm⟩
    next => exact absurd h throw_ne_ok

/-- The values of a list stand at one level below the list itself. -/
theorem anyList_eq_ok_iff :
    anyList scan = .ok items ↔ value nestingLimit scan = .ok (.array items) := by
  cases scan with
  | array scans =>
    have hvalue : value nestingLimit (.array scans) =
        (values (nestingLimit - 1) scans).map Value.array := value_array _ scans
    simp [hvalue, anyList, map_eq_ok_iff]
  | null => simp [anyList, value]
  | bool b => simp [anyList, value]
  | number numeral =>
    rw [value]
    cases numeral.value? <;> simp [anyList]
  | string s => cases s <;> simp [anyList, value]
  | object scans closed =>
    have hvalue : value nestingLimit (.object scans closed) ≠ .ok (.array items) := by
      intro h
      obtain ⟨members, hmembers⟩ := exists_object_of_value h
      exact absurd hmembers (by simp)
    simp [anyList, hvalue]
  | broken => simp [anyList, value]

/-- A string is the same among values of any shape. -/
theorem string_eq_ok_iff : string scan = .ok s ↔ value levels scan = .ok (.string s) := by
  cases scan with
  | string found => cases found <;> simp [string, value]
  | null => simp [string, value]
  | bool b => simp [string, value]
  | number numeral =>
    rw [value]
    cases numeral.value? <;> simp [string]
  | array scans =>
    have hvalue : value levels (.array scans) ≠ .ok (.string s) := by
      intro h
      obtain ⟨items, hitems⟩ := exists_array_of_value h
      exact absurd hitems (by simp)
    simp [string, hvalue]
  | object scans closed =>
    have hvalue : value levels (.object scans closed) ≠ .ok (.string s) := by
      intro h
      obtain ⟨members, hmembers⟩ := exists_object_of_value h
      exact absurd hmembers (by simp)
    simp [string, hvalue]
  | broken => simp [string, value]

/-- A string is read from a string of the text alone. -/
theorem string_eq_ok_iff_eq : string scan = .ok s ↔ scan = .string (some s) := by
  cases scan with
  | string found => cases found <;> simp [string]
  | _ => simp [string]

theorem mapM_string_eq_ok_iff_eq {scans : List Scan} {names : List String} :
    scans.mapM string = .ok names ↔ scans = names.map fun name => .string (some name) := by
  induction scans generalizing names with
  | nil => cases names <;> simp [pure, Except.pure]
  | cons scan scans ih =>
    rw [List.mapM_cons]
    simp only [bind_eq_ok_iff, string_eq_ok_iff_eq, ih]
    constructor
    · rintro ⟨name, rfl, later, rfl, h⟩
      obtain rfl := Except.ok.inj h
      rfl
    · intro h
      cases names with
      | nil => exact absurd h (by simp)
      | cons name names =>
        obtain ⟨rfl, rfl⟩ := List.cons.inj h
        exact ⟨name, rfl, names, rfl, rfl⟩

theorem mapM_string_eq_ok_iff {scans : List Scan} {names : List String} :
    scans.mapM string = .ok names ↔ values levels scans = .ok (names.map .string) := by
  induction scans generalizing names with
  | nil =>
    rw [List.mapM_nil, values]
    cases names <;> simp [pure, Except.pure]
  | cons scan scans ih =>
    rw [List.mapM_cons, values]
    simp only [bind_eq_ok_iff]
    constructor
    · rintro ⟨name, hname, later, hlater, h⟩
      obtain rfl := Except.ok.inj h
      exact ⟨_, string_eq_ok_iff.mp hname, _, ih.mp hlater, rfl⟩
    · rintro ⟨first, hfirst, later, hlater, h⟩
      cases names with
      | nil => exact absurd h (by simp [pure, Except.pure])
      | cons name names =>
        obtain ⟨rfl, rfl⟩ := List.cons.inj (Except.ok.inj h)
        exact ⟨name, string_eq_ok_iff.mpr hfirst, names, ih.mpr hlater, rfl⟩

/-- A list of strings is a list of any values that are strings. -/
theorem list_string_eq_ok_iff {names : List String} :
    list string scan = .ok names ↔ anyList scan = .ok (names.map .string) := by
  cases scan with
  | array scans => exact mapM_string_eq_ok_iff
  | _ => simp [list, anyList]

end Decode

/-- A text decodes as a list of any values exactly if its value is an array of them. -/
theorem decode_anyList_eq_ok_iff {text : String} {items : List Value} :
    decode Decode.anyList text = .ok items ↔ Value.ofText? text = some (.array items) := by
  rw [Value.ofText?, toOption_eq_some_iff, decode_eq_ok_iff, decode_eq_ok_iff,
    Decode.anyList_eq_ok_iff]

/-- A text decodes as a list of strings exactly if its value is an array of them. -/
theorem decode_list_string_eq_ok_iff {text : String} {names : List String} :
    decode (Decode.list Decode.string) text = .ok names ↔
      Value.ofText? text = some (.strings names) := by
  rw [Value.strings, ← decode_anyList_eq_ok_iff, decode_eq_ok_iff, decode_eq_ok_iff,
    Decode.list_string_eq_ok_iff]

end UploadGate.Json
