import UploadGate.Form.Validation
import UploadGate.Proofs.Keys
import UploadGate.Proofs.Text.Tables

/-! # Drafts of an upload

Cleaning the fields of a form one after another gives a draft that holds the outcome of each field
under its name, where the names are distinct. A draft has no problem if no field has one, and the
delimiter of a form for CSV files can be resolved.
-/

namespace UploadGate

namespace Form

@[simp] theorem isEmpty_problems_add (problems : Problems) (name : String) (problem : Problem) :
    (problems.add name problem).isEmpty = false :=
  NameTable.isEmpty_insert _ _ _

/-! ## Cleaning all fields -/

namespace Draft

variable {draft : Draft} {fields : List Field} {name : String}
  {outcome : Field → Except Problem Value}

theorem get?_values_add (draft : Draft) (name other : String) (found : Except Problem Value) :
    (draft.add name found).values.get? other =
      if other = name then found.toOption.or (draft.values.get? other)
      else draft.values.get? other := by
  cases found with
  | error problem => simp [add, Except.toOption]
  | ok value =>
    rw [add, NameTable.get?_insert]
    rfl

theorem isEmpty_problems_add_iff {found : Except Problem Value} :
    (draft.add name found).problems.isEmpty = true ↔
      draft.problems.isEmpty = true ∧ ∃ value, found = .ok value := by
  cases found <;> simp [add]

/-- No field has a problem exactly if each has a value, whatever the names of the fields. -/
theorem isEmpty_problems_foldl_add_iff :
    (fields.foldl (fun draft field => draft.add field.name (outcome field)) draft).problems.isEmpty
        = true ↔
      draft.problems.isEmpty = true ∧ ∀ field ∈ fields, ∃ value, outcome field = .ok value := by
  induction fields generalizing draft with
  | nil => simp
  | cons first rest ih =>
    rw [List.foldl_cons, ih, isEmpty_problems_add_iff, List.forall_mem_cons, and_assoc]

/-- The value under a name is that of the field of the name. -/
theorem get?_values_foldl_add (hdistinct : (fields.map Field.name).Nodup) :
    (fields.foldl (fun draft field => draft.add field.name (outcome field)) draft).values.get? name
      = ((fields.find? (·.name = name)).bind fun field => (outcome field).toOption).or
          (draft.values.get? name) := by
  induction fields generalizing draft with
  | nil => simp
  | cons first rest ih =>
    obtain ⟨hfirst, hrest⟩ := List.nodup_cons.mp hdistinct
    rw [List.foldl_cons, ih hrest, get?_values_add]
    by_cases hname : first.name = name
    · subst hname
      -- No later field has the name, so that the value of the first one stays.
      have hnone : rest.find? (·.name = first.name) = none := by
        rw [List.find?_eq_none]
        intro field hfield hsame
        exact hfirst (List.mem_map.mpr ⟨field, hfield, by simpa using hsame⟩)
      simp [hnone]
    · simp [hname, Ne.symm hname]

/-! ## The delimiter -/

/-- A delimiter of its own stays, one that is typed in takes the place of the word for it, and one
that is asked for without being typed in is a problem. -/
theorem resolveDelimiter_cases (draft : Draft) :
    (draft.text? "delimiter" ≠ some "other" ∧ draft.resolveDelimiter = draft) ∨
    (draft.text? "delimiter" = some "other" ∧ ∃ text, draft.text? "otherInput" = some text ∧
      text ≠ "" ∧ draft.resolveDelimiter =
        { draft with values := draft.values.insert "delimiter" (.text text) }) ∨
    (draft.text? "delimiter" = some "other" ∧
      (∀ text, draft.text? "otherInput" = some text → text = "") ∧ draft.resolveDelimiter =
        { draft with problems := draft.problems.add "otherInput" .required }) := by
  unfold resolveDelimiter
  split
  next hother =>
    split
    next text hfound =>
      have htext : draft.text? "otherInput" = some text ∧ text ≠ "" := by
        simpa [Option.filter_eq_some_iff] using hfound
      exact .inr (.inl ⟨hother, text, htext.1, htext.2, rfl⟩)
    next hnone => exact .inr (.inr ⟨hother, by simpa [Option.filter_eq_none_iff] using hnone, rfl⟩)
  next hother => exact .inl ⟨hother, rfl⟩

theorem get?_values_resolveDelimiter (hname : name ≠ "delimiter") :
    draft.resolveDelimiter.values.get? name = draft.values.get? name := by
  rcases draft.resolveDelimiter_cases with ⟨-, h⟩ | ⟨-, text, -, -, h⟩ | ⟨-, -, h⟩
  · rw [h]
  · simp [h, hname]
  · rw [h]

/-- Resolving the delimiter gives no field a value that had none. -/
theorem isSome_get?_values_resolveDelimiter (draft : Draft) (name : String) :
    (draft.resolveDelimiter.values.get? name).isSome = (draft.values.get? name).isSome := by
  by_cases hname : name = "delimiter"
  · subst hname
    rcases draft.resolveDelimiter_cases with ⟨-, h⟩ | ⟨hother, text, -, -, h⟩ | ⟨-, -, h⟩
    · rw [h]
    · -- Only a delimiter that has a value is replaced.
      obtain ⟨value, hvalue, -⟩ := Option.bind_eq_some_iff.mp hother
      simp [h, hvalue]
    · rw [h]
  · rw [get?_values_resolveDelimiter hname]

/-- A delimiter that is not empty is resolved to one that is not empty either. -/
theorem exists_delimiter_resolveDelimiter {text : String}
    (h : draft.values.get? "delimiter" = some (.text text)) (hne : text ≠ "") :
    ∃ found, draft.resolveDelimiter.values.get? "delimiter" = some (.text found) ∧ found ≠ "" := by
  rcases draft.resolveDelimiter_cases with
    ⟨-, hsame⟩ | ⟨-, typed, -, hnonempty, htyped⟩ | ⟨-, -, hmissing⟩
  · exact ⟨text, by rw [hsame, h], hne⟩
  · exact ⟨typed, by simp [htyped], hnonempty⟩
  · exact ⟨text, by rw [hmissing, h], hne⟩

/-- A delimiter that is typed in has to be there. -/
theorem isEmpty_problems_resolveDelimiter_iff :
    draft.resolveDelimiter.problems.isEmpty = true ↔
      draft.problems.isEmpty = true ∧ (draft.text? "delimiter" = some "other" →
        ∃ text, draft.text? "otherInput" = some text ∧ text ≠ "") := by
  rcases draft.resolveDelimiter_cases with
    ⟨hother, h⟩ | ⟨hother, text, htext, hne, h⟩ | ⟨hother, hmissing, h⟩
  · simp [h, hother]
  · simp [h, hother, htext, hne]
  · have hnot : ¬ ∃ text, draft.text? "otherInput" = some text ∧ text ≠ "" := by
      rintro ⟨text, htext, hne⟩
      exact hne (hmissing text htext)
    simp [h, hother, hnot]

end Draft

/-! ## Validating a submission -/

variable {form : Form} {databases : List Choice} {submission : Submission} {name : String}

/-- A field of a form whose names are distinct is found under its name. -/
theorem field?_name_of_mem {field : Field} (hdistinct : (form.fields.map Field.name).Nodup)
    (hmem : field ∈ form.fields) : form.field? field.name = some field :=
  find?_of_nodup_map hdistinct hmem

theorem isEmpty_problems_cleaned_iff :
    (form.cleaned databases submission).problems.isEmpty = true ↔
      ∀ field ∈ form.fields, ∃ value, cleanField databases submission field = .ok value := by
  rw [cleaned, Draft.isEmpty_problems_foldl_add_iff]
  simp [Draft.empty]

theorem get?_values_cleaned (hdistinct : (form.fields.map Field.name).Nodup) :
    (form.cleaned databases submission).values.get? name =
      (form.field? name).bind fun field => (cleanField databases submission field).toOption := by
  rw [cleaned, Draft.get?_values_foldl_add hdistinct, field?]
  simp [Draft.empty]

/-- Resolving the delimiter leaves the values of all other fields as they were cleaned. -/
theorem get?_values_draft (hdistinct : (form.fields.map Field.name).Nodup)
    (hname : name ≠ "delimiter") :
    (form.draft databases submission).values.get? name =
      (form.field? name).bind fun field => (cleanField databases submission field).toOption := by
  rw [← get?_values_cleaned hdistinct]
  unfold draft
  split
  · exact Draft.get?_values_resolveDelimiter hname
  · rfl

theorem validate_eq_ok_iff {upload : Upload} :
    form.validate databases submission = .ok upload ↔
      (form.draft databases submission).problems.isEmpty = true ∧
        ∃ id, (form.draft databases submission).databaseId? = some id ∧
          upload = ⟨form.kind, id, (form.draft databases submission).schema?,
            (form.draft databases submission).values⟩ := by
  unfold validate
  dsimp only
  split
  next hempty =>
    cases hid : (form.draft databases submission).databaseId? with
    | none => simp
    | some id => simp [hempty, eq_comm]
  next hempty => simp [hempty]

end Form

end UploadGate
