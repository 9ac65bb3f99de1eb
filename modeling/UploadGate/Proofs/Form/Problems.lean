import UploadGate.Proofs.Form.Acceptance

/-! # What a form finds wrong with a submission

Every field of a form has one problem at most, and problems of other fields neither add to it nor
hide it. In the form for CSV files the field for a delimiter that is to be typed in, which takes in
any text, has one if there is none. A form of the catalog refuses a submission for these problems
and for no other reason.
-/

namespace UploadGate.Form

/-! ## Collecting problems -/

theorem get?_problems_add (problems : Problems) (name other : String) (problem : Problem) :
    (problems.add name problem).get? other =
      if other = name then some ((problems.get? name).getD [] ++ [problem])
      else problems.get? other := by
  rw [Problems.add, NameTable.alter, NameTable.get?_insert]

/-- What is wrong with a field, if anything is. -/
def problemOf? : Except Problem Value → Option Problem
  | .ok _ => none
  | .error problem => some problem

theorem problemOf?_eq_some_iff {found : Except Problem Value} {problem : Problem} :
    problemOf? found = some problem ↔ found = .error problem := by
  cases found <;> simp [problemOf?]

namespace Draft

variable {draft : Draft} {fields : List Field} {name : String}
  {outcome : Field → Except Problem Value}

theorem get?_problems_add_of_ne (found : Except Problem Value) {other : String}
    (hne : other ≠ name) :
    (draft.add name found).problems.get? other = draft.problems.get? other := by
  cases found with
  | ok value => rfl
  | error problem => rw [add, get?_problems_add, if_neg hne]

theorem get?_problems_add_self (found : Except Problem Value)
    (hfresh : draft.problems.get? name = none) :
    (draft.add name found).problems.get? name = (problemOf? found).map ([·]) := by
  cases found with
  | ok value => exact hfresh
  | error problem =>
    rw [add, get?_problems_add, if_pos rfl, hfresh]
    rfl

/-- The problem under a name is that of the field of the name. -/
theorem get?_problems_foldl_add (hdistinct : (fields.map Field.name).Nodup)
    (hfresh : ∀ field ∈ fields, draft.problems.get? field.name = none) :
    (fields.foldl (fun draft field => draft.add field.name (outcome field)) draft).problems.get?
        name
      = (((fields.find? (·.name = name)).bind fun field => problemOf? (outcome field)).map
          ([·])).or (draft.problems.get? name) := by
  induction fields generalizing draft with
  | nil => simp
  | cons first rest ih =>
    obtain ⟨hfirst, hrest⟩ := List.nodup_cons.mp hdistinct
    obtain ⟨hfreshFirst, hfreshRest⟩ := List.forall_mem_cons.mp hfresh
    have hne : ∀ field ∈ rest, field.name ≠ first.name := fun field hfield hsame =>
      hfirst (List.mem_map.mpr ⟨field, hfield, hsame⟩)
    have hstill : ∀ field ∈ rest,
        (draft.add first.name (outcome first)).problems.get? field.name = none := by
      intro field hfield
      rw [get?_problems_add_of_ne _ (hne field hfield)]
      exact hfreshRest field hfield
    rw [List.foldl_cons, ih hrest hstill]
    by_cases hname : first.name = name
    · subst hname
      have hnone : rest.find? (·.name = first.name) = none := by
        simpa [List.find?_eq_none] using hne
      rw [hnone, get?_problems_add_self _ hfreshFirst, hfreshFirst]
      simp
    · rw [get?_problems_add_of_ne _ (Ne.symm hname)]
      simp [hname]

/-- Resolving the delimiter finds one thing wrong at most: that there is none where there should be
one. -/
theorem get?_problems_resolveDelimiter_eq_some_iff {problems : List Problem}
    (hfresh : draft.problems.get? "otherInput" = none) :
    draft.resolveDelimiter.problems.get? name = some problems ↔
      draft.problems.get? name = some problems ∨
        (name = "otherInput" ∧ problems = [.required]) ∧ draft.text? "delimiter" = some "other" ∧
          ∀ text, draft.text? "otherInput" = some text → text = "" := by
  rcases draft.resolveDelimiter_cases with
    ⟨hother, h⟩ | ⟨hother, text, htext, hne, h⟩ | ⟨hother, hmissing, h⟩
  · simp [h, hother]
  · have hnot : ¬ ∀ text, draft.text? "otherInput" = some text → text = "" := fun hmissing =>
      hne (hmissing text htext)
    simp [h, hnot]
  · rw [h, get?_problems_add, hfresh]
    by_cases hname : name = "otherInput"
    · subst hname
      rw [if_pos rfl, hfresh]
      constructor
      · intro h
        exact Or.inr ⟨⟨rfl, (Option.some.inj h).symm⟩, hother, hmissing⟩
      · rintro (h | ⟨⟨-, rfl⟩, -⟩)
        · exact absurd h (by simp)
        · rfl
    · simp [hname]

end Draft

/-! ## The forms of the catalog -/

variable {settings : UploadSettings} {kind : Kind} {databases : List Choice}
  {submission : Submission} {name : String} {problem : Problem}

/-- What is wrong with the fields of a form: a field's own problem, or the want of a delimiter. -/
inductive Finds (settings : UploadSettings) (kind : Kind) (databases : List Choice)
    (submission : Submission) : String → Problem → Prop
  | field {field : Field} {problem : Problem} (hmem : field ∈ (catalog settings kind).fields)
    (hproblem : cleanField databases submission field = .error problem) :
    Finds settings kind databases submission field.name problem
  | delimiter (hkind : kind = .csv)
    (hother : submission.fields.get? "delimiter" = some "other")
    (hmissing : ∀ text, submission.fields.get? "otherInput" = some text → text = "") :
    Finds settings kind databases submission "otherInput" .required

theorem get?_problems_cleaned_eq_some_iff {form : Form} {problems : List Problem}
    (hdistinct : (form.fields.map Field.name).Nodup) :
    (form.cleaned databases submission).problems.get? name = some problems ↔
      ∃ field ∈ form.fields, field.name = name ∧
        ∃ problem, cleanField databases submission field = .error problem ∧
          problems = [problem] := by
  have hfresh : ∀ field ∈ form.fields, Draft.empty.problems.get? field.name = none :=
    fun _ _ => rfl
  have hempty : Draft.empty.problems.get? name = none := rfl
  rw [cleaned, Draft.get?_problems_foldl_add hdistinct hfresh, hempty, Option.or_none]
  simp only [Option.map_eq_some_iff, Option.bind_eq_some_iff, problemOf?_eq_some_iff]
  constructor
  · rintro ⟨problem, ⟨field, hfield, hproblem⟩, rfl⟩
    have hname : field.name = name := by simpa using List.find?_some hfield
    exact ⟨field, List.mem_of_find?_eq_some hfield, hname, problem, hproblem, rfl⟩
  · rintro ⟨field, hmem, rfl, problem, hproblem, rfl⟩
    exact ⟨problem, ⟨field, field?_name_of_mem hdistinct hmem, hproblem⟩, rfl⟩

/-- The field for a delimiter takes in any text. -/
theorem get?_problems_cleaned_otherInput :
    ((catalog settings .csv).cleaned databases submission).problems.get? "otherInput" = none := by
  rw [Option.eq_none_iff_forall_ne_some]
  intro problems h
  obtain ⟨field, hmem, hname, problem, hproblem, -⟩ :=
    (get?_problems_cleaned_eq_some_iff nodup_map_name_catalog).mp h
  have hfield := field?_name_of_mem nodup_map_name_catalog hmem
  rw [hname] at hfield
  obtain rfl : otherDelimiter = field := Option.some.inj hfield
  rw [cleanField, clean_otherDelimiter] at hproblem
  exact absurd hproblem (by simp)

/-- The value of the delimiter's field is "other" exactly if that was chosen. -/
theorem text?_cleaned_delimiter_iff :
    ((catalog settings .csv).cleaned databases submission).text? "delimiter" = some "other" ↔
      submission.fields.get? "delimiter" = some "other" := by
  by_cases hclean : IsClean databases submission delimiter
  · exact text?_cleaned_delimiter_eq_iff hclean
  · -- An option that is none of the field's own is not "other", and leaves no value.
    have hfield : (catalog settings .csv).field? "delimiter" = some delimiter := rfl
    have hnone :
        ((catalog settings .csv).cleaned databases submission).text? "delimiter" = none := by
      rw [Draft.text?, get?_values_cleaned nodup_map_name_catalog, hfield, Option.bind_some]
      cases hvalue : cleanField databases submission delimiter with
      | ok value => exact absurd ⟨value, hvalue⟩ hclean
      | error problem => rfl
    rw [hnone]
    refine iff_of_false (by simp) fun hother => hclean ?_
    exact isClean_delimiter_iff.mpr (Or.inr ⟨"other", by simp, hother⟩)

/-- A draft holds what is wrong with the fields, each problem by itself. -/
theorem get?_problems_draft_eq_some_iff {problems : List Problem} :
    ((catalog settings kind).draft databases submission).problems.get? name = some problems ↔
      ∃ problem, Finds settings kind databases submission name problem ∧ problems = [problem] := by
  unfold draft
  split
  next hcsv =>
    obtain rfl : kind = .csv := hcsv
    rw [Draft.get?_problems_resolveDelimiter_eq_some_iff get?_problems_cleaned_otherInput,
      text?_cleaned_delimiter_iff, text?_cleaned_otherInput,
      get?_problems_cleaned_eq_some_iff nodup_map_name_catalog]
    constructor
    · rintro (⟨field, hmem, rfl, problem, hproblem, rfl⟩ | ⟨⟨rfl, rfl⟩, hother, hmissing⟩)
      · exact ⟨problem, .field hmem hproblem, rfl⟩
      · exact ⟨.required, .delimiter rfl hother hmissing, rfl⟩
    · rintro ⟨problem, hfinds, rfl⟩
      cases hfinds with
      | field hmem hproblem => exact Or.inl ⟨_, hmem, rfl, problem, hproblem, rfl⟩
      | delimiter _ hother hmissing => exact Or.inr ⟨⟨rfl, rfl⟩, hother, hmissing⟩
  next hother =>
    rw [get?_problems_cleaned_eq_some_iff nodup_map_name_catalog]
    constructor
    · rintro ⟨field, hmem, rfl, problem, hproblem, rfl⟩
      exact ⟨problem, .field hmem hproblem, rfl⟩
    · rintro ⟨problem, hfinds, rfl⟩
      cases hfinds with
      | field hmem hproblem => exact ⟨_, hmem, rfl, problem, hproblem, rfl⟩
      | delimiter hkind => exact absurd hkind hother

/-- Nothing is wrong with a clean field, other than the one for a delimiter that is typed in. -/
theorem get?_problems_draft_eq_none_iff {field : Field}
    (hfield : (catalog settings kind).field? name = some field) (hother : name ≠ "otherInput") :
    ((catalog settings kind).draft databases submission).problems.get? name = none ↔
      IsClean databases submission field := by
  rw [Option.eq_none_iff_forall_ne_some]
  simp only [ne_eq, get?_problems_draft_eq_some_iff]
  have hmem : field ∈ (catalog settings kind).fields := List.mem_of_find?_eq_some hfield
  have hname : field.name = name := by simpa using List.find?_some hfield
  constructor
  · intro hnone
    cases hvalue : cleanField databases submission field with
    | ok value => exact ⟨value, hvalue⟩
    | error problem => exact absurd ⟨problem, hname ▸ .field hmem hvalue, rfl⟩ (hnone [problem])
  · rintro ⟨value, hvalue⟩ _ ⟨problem, hfinds, rfl⟩
    generalize hfound : name = found at hfinds
    cases hfinds with
    | @field other _ hmemOther hproblem =>
      have hsame := field?_name_of_mem nodup_map_name_catalog hmemOther
      rw [← hfound, hfield] at hsame
      obtain rfl := Option.some.inj hsame
      rw [hvalue] at hproblem
      exact absurd hproblem (by simp)
    | delimiter => exact hother hfound

/-- Nothing is wrong with the files exactly if the form takes them. -/
theorem get?_problems_draft_fileField_eq_none_iff :
    ((catalog settings kind).draft databases submission).problems.get? kind.fileField = none ↔
      TakesFiles (settings.extensionsFor kind) kind (submission.filesFor kind.fileField) := by
  cases kind with
  | csv | excel =>
    exact (get?_problems_draft_eq_none_iff rfl (by decide)).trans isClean_fileUpload_file_iff
  | columnar =>
    exact (get?_problems_draft_eq_none_iff rfl (by decide)).trans isClean_fileUpload_files_iff

/-- A submission that does not fill in a form is refused for what is wrong with its fields. That the
database is missing from a draft without problems never happens. -/
theorem validate_catalog_of_not_fillsIn (h : ¬ FillsIn settings kind databases submission) :
    (catalog settings kind).validate databases submission =
      .error ((catalog settings kind).draft databases submission).problems := by
  unfold validate
  rw [if_neg (isEmpty_problems_draft_iff.not.mpr h)]

theorem validate_catalog_eq_error_iff {problems : Problems} :
    (catalog settings kind).validate databases submission = .error problems ↔
      ¬ FillsIn settings kind databases submission ∧
        problems = ((catalog settings kind).draft databases submission).problems := by
  by_cases h : FillsIn settings kind databases submission
  · obtain ⟨upload, hupload⟩ := exists_validate_catalog h
    simp [hupload, h]
  · rw [validate_catalog_of_not_fillsIn h]
    simp [h, eq_comm]

/-- A form has no problem with the files of a submission, whatever is wrong with its other
fields. -/
def PassesFiles (settings : UploadSettings) (kind : Kind) (databases : List Choice)
    (submission : Submission) : Prop :=
  ∀ problems, (catalog settings kind).validate databases submission = .error problems →
    problems.get? kind.fileField = none

theorem passesFiles_iff :
    PassesFiles settings kind databases submission ↔
      TakesFiles (settings.extensionsFor kind) kind (submission.filesFor kind.fileField) := by
  have hfiles : ((catalog settings kind).draft databases submission).problems.get?
      kind.fileField = none ↔
        TakesFiles (settings.extensionsFor kind) kind (submission.filesFor kind.fileField) :=
    get?_problems_draft_fileField_eq_none_iff
  rw [← hfiles]
  simp only [PassesFiles, validate_catalog_eq_error_iff]
  constructor
  · intro hpasses
    by_cases hfills : FillsIn settings kind databases submission
    · exact hfiles.mpr hfills.files
    · exact hpasses _ ⟨hfills, rfl⟩
  · rintro hnone problems ⟨-, rfl⟩
    exact hnone

/-- A form that takes in more extensions passes more files. -/
theorem PassesFiles.mono {more : UploadSettings}
    (hmore : ∀ extension ∈ settings.extensionsFor kind, extension ∈ more.extensionsFor kind)
    (h : PassesFiles settings kind databases submission) :
    PassesFiles more kind databases submission := by
  have hfile : ∀ filename,
      (∃ extension ∈ settings.extensionsFor kind, HasExtension filename extension) →
        ∃ extension ∈ more.extensionsFor kind, HasExtension filename extension :=
    fun filename ⟨extension, hmem, hextension⟩ => ⟨extension, hmore extension hmem, hextension⟩
  rw [passesFiles_iff] at h ⊢
  cases kind with
  | csv | excel =>
    obtain ⟨filename, hhead, hallowed⟩ := h
    exact ⟨filename, hhead, hfile filename hallowed⟩
  | columnar => exact ⟨h.1, fun filename hmem => hfile filename (h.2 filename hmem)⟩

/-- Something is wrong with a submission exactly if it does not fill in the form. -/
theorem exists_finds_iff_not_fillsIn :
    (∃ name problem, Finds settings kind databases submission name problem) ↔
      ¬ FillsIn settings kind databases submission := by
  rw [← isEmpty_problems_draft_iff, NameTable.isEmpty_iff]
  simp [Option.eq_none_iff_forall_ne_some, get?_problems_draft_eq_some_iff]

end UploadGate.Form
