import UploadGate.Proofs.Form.Cleaning
import UploadGate.Proofs.Form.Problems

/-! # Forms are validated field by field

What becomes of a field follows from its own row, the raw text and the files that came under its
name and, for a database, the ids on offer. A form puts these outcomes side by side, so that a field
hides no problem of another and adds none to it. Two rules look across fields: in a form for CSV
files the delimiter may be taken from the field next to it, which must then be filled in; and a form
without any other problem is refused if it names no database.
-/

namespace UploadGate.Form

/-! ## The outcome of one field -/

/-- Two runs have the same to go by for a field. -/
structure SameInputs (field : Field) (databases others : List Choice)
    (submission other : Submission) : Prop where
  raw : submission.fields.get? field.name = other.fields.get? field.name
  files : submission.filesFor field.name = other.filesFor field.name
  ids : field.kind = .input .database →
    ∀ id, id ∈ databases.map Choice.id ↔ id ∈ others.map Choice.id

namespace Field

variable {field : Field} {kind : InputKind} {databases others : List Choice}

/-- Of the databases, only a field for one reads anything, and that is their ids. -/
theorem read_congr (text : String)
    (hids : kind = .database → ∀ id, id ∈ databases.map Choice.id ↔ id ∈ others.map Choice.id) :
    field.read kind databases text = field.read kind others text := by
  cases kind with
  | database =>
    have hany : ∀ id, (databases.any fun choice => choice.id = id) =
        others.any fun choice => choice.id = id := by
      intro id
      rw [Bool.eq_iff_iff]
      simpa using hids rfl id
    simp only [read, hany]
  | _ => rfl

theorem clean_congr (raw : Option String) (files : List String)
    (hids : field.kind = .input .database →
      ∀ id, id ∈ databases.map Choice.id ↔ id ∈ others.map Choice.id) :
    field.clean databases raw files = field.clean others raw files := by
  cases hkind : field.kind with
  | file => simp only [clean, hkind]
  | files => simp only [clean, hkind]
  | input kind =>
    rw [clean_input hkind, clean_input hkind]
    cases raw with
    | none => rfl
    | some text =>
      have hread : field.read kind databases text = field.read kind others text := by
        apply read_congr
        intro hdatabase
        apply hids
        rw [hkind, hdatabase]
      rw [cleanInput, cleanInput, hread]

end Field

variable {form : Form} {databases others : List Choice} {submission other : Submission}
  {name : String}

theorem cleanField_congr {field : Field}
    (h : SameInputs field databases others submission other) :
    cleanField databases submission field = cleanField others other field := by
  rw [cleanField, cleanField, h.raw, h.files]
  exact Field.clean_congr _ _ h.ids

/-! ## The outcomes side by side -/

/-- The value of the field of a name, by itself. -/
def ownValue? (form : Form) (databases : List Choice) (submission : Submission) (name : String) :
    Option Value :=
  (form.field? name).bind fun field => (cleanField databases submission field).toOption

/-- What is wrong with the field of a name, by itself. -/
def ownProblem? (form : Form) (databases : List Choice) (submission : Submission)
    (name : String) : Option Problem :=
  (form.field? name).bind fun field => problemOf? (cleanField databases submission field)

def ownText? (form : Form) (databases : List Choice) (submission : Submission) (name : String) :
    Option String :=
  (form.ownValue? databases submission name).bind Value.text?

/-- The delimiter is to be typed in, in the field next to it. -/
def asksForDelimiter (form : Form) (databases : List Choice) (submission : Submission) : Bool :=
  form.kind = .csv && form.ownText? databases submission "delimiter" = some "other"

/-- The delimiter that was typed in. -/
def typedDelimiter? (form : Form) (databases : List Choice) (submission : Submission) :
    Option String :=
  (form.ownText? databases submission "otherInput").filter (· ≠ "")

/-- What a form reports of a name: what is wrong with its field, and the want of a delimiter. -/
def reported (form : Form) (databases : List Choice) (submission : Submission) (name : String) :
    List Problem :=
  (form.ownProblem? databases submission name).toList ++
    if name = "otherInput" ∧ form.asksForDelimiter databases submission = true ∧
      form.typedDelimiter? databases submission = none then [.required] else []

/-- The value that a form gives a name: that of its field, but for a delimiter that was typed
in. -/
def givenValue? (form : Form) (databases : List Choice) (submission : Submission)
    (name : String) : Option Value :=
  if name = "delimiter" ∧ form.asksForDelimiter databases submission = true then
    (form.typedDelimiter? databases submission).map .text
  else form.ownValue? databases submission name

theorem get?_values_cleaned_eq_ownValue? (hdistinct : (form.fields.map Field.name).Nodup) :
    (form.cleaned databases submission).values.get? name =
      form.ownValue? databases submission name :=
  get?_values_cleaned hdistinct

theorem get?_problems_cleaned_eq_ownProblem? (hdistinct : (form.fields.map Field.name).Nodup) :
    (form.cleaned databases submission).problems.get? name =
      (form.ownProblem? databases submission name).map ([·]) := by
  have hfresh : ∀ field ∈ form.fields, Draft.empty.problems.get? field.name = none :=
    fun _ _ => rfl
  have hempty : Draft.empty.problems.get? name = none := rfl
  rw [cleaned, Draft.get?_problems_foldl_add hdistinct hfresh, hempty, Option.or_none]
  rfl

theorem text?_cleaned_eq_ownText? (hdistinct : (form.fields.map Field.name).Nodup) :
    (form.cleaned databases submission).text? name = form.ownText? databases submission name := by
  rw [Draft.text?, get?_values_cleaned_eq_ownValue? hdistinct, ownText?]

/-! ### The draft -/

theorem asksForDelimiter_eq_true_iff (hdistinct : (form.fields.map Field.name).Nodup) :
    form.asksForDelimiter databases submission = true ↔
      form.kind = .csv ∧ (form.cleaned databases submission).text? "delimiter" = some "other" := by
  rw [asksForDelimiter, Bool.and_eq_true, decide_eq_true_eq, decide_eq_true_eq,
    text?_cleaned_eq_ownText? hdistinct]

theorem draft_of_not_asks (hdistinct : (form.fields.map Field.name).Nodup)
    (hasks : form.asksForDelimiter databases submission = false) :
    form.draft databases submission = form.cleaned databases submission := by
  unfold draft
  split
  next hcsv =>
    rw [Draft.resolveDelimiter, if_neg]
    intro hother
    rw [(asksForDelimiter_eq_true_iff hdistinct).mpr ⟨hcsv, hother⟩] at hasks
    exact absurd hasks (by simp)
  next => rfl

/-- A draft whose delimiter is to be typed in takes it from the field next to it. -/
theorem draft_of_asks (hdistinct : (form.fields.map Field.name).Nodup)
    (hasks : form.asksForDelimiter databases submission = true) :
    (∀ text, form.typedDelimiter? databases submission = some text →
      form.draft databases submission =
        { form.cleaned databases submission with
          values := (form.cleaned databases submission).values.insert "delimiter"
            (.text text) }) ∧
      (form.typedDelimiter? databases submission = none →
        form.draft databases submission =
          { form.cleaned databases submission with
            problems :=
              (form.cleaned databases submission).problems.add "otherInput" .required }) := by
  obtain ⟨hcsv, hother⟩ := (asksForDelimiter_eq_true_iff hdistinct).mp hasks
  rw [draft, if_pos hcsv, Draft.resolveDelimiter, if_pos hother,
    text?_cleaned_eq_ownText? hdistinct, typedDelimiter?]
  constructor
  · intro text htext
    rw [htext]
  · intro hnone
    rw [hnone]

/-- The problems of a draft are those reported. -/
theorem get?_problems_draft (hdistinct : (form.fields.map Field.name).Nodup)
    {problems : List Problem} :
    (form.draft databases submission).problems.get? name = some problems ↔
      problems ≠ [] ∧ problems = form.reported databases submission name := by
  have hcleaned : ∀ name, (form.cleaned databases submission).problems.get? name =
      (form.ownProblem? databases submission name).map ([·]) :=
    fun name => get?_problems_cleaned_eq_ownProblem? hdistinct
  -- A list of one problem at most is there exactly if it is not empty.
  have hown : (form.cleaned databases submission).problems.get? name = some problems ↔
      problems ≠ [] ∧ problems = (form.ownProblem? databases submission name).toList := by
    rw [hcleaned]
    cases form.ownProblem? databases submission name with
    | none => simp
    | some problem =>
      simp only [Option.map_some, Option.some.injEq, Option.toList_some]
      constructor
      · rintro rfl
        simp
      · rintro ⟨-, rfl⟩
        rfl
  unfold reported
  cases hasks : form.asksForDelimiter databases submission with
  | false => simpa [draft_of_not_asks hdistinct hasks] using hown
  | true =>
    obtain ⟨htyped, huntyped⟩ := draft_of_asks hdistinct hasks
    cases hfound : form.typedDelimiter? databases submission with
    | some text => simpa [htyped text hfound] using hown
    | none =>
      rw [huntyped hfound, get?_problems_add]
      split
      next hname =>
        subst hname
        have hbefore : ((form.cleaned databases submission).problems.get? "otherInput").getD [] =
            (form.ownProblem? databases submission "otherInput").toList := by
          rw [hcleaned]
          cases form.ownProblem? databases submission "otherInput" <;> rfl
        rw [hbefore, if_pos ⟨rfl, rfl, rfl⟩, Option.some.injEq]
        constructor
        · rintro rfl
          simp
        · rintro ⟨-, rfl⟩
          rfl
      next hname => simpa [hname] using hown

/-- A draft without problems reports nothing. -/
theorem isEmpty_problems_draft_iff_reported (hdistinct : (form.fields.map Field.name).Nodup) :
    (form.draft databases submission).problems.isEmpty = true ↔
      ∀ name, form.reported databases submission name = [] := by
  rw [NameTable.isEmpty_iff]
  apply forall_congr'
  intro name
  rw [Option.eq_none_iff_forall_ne_some]
  simp only [ne_eq, get?_problems_draft hdistinct]
  constructor
  · intro hnone
    by_contra hne
    exact hnone _ ⟨hne, rfl⟩
  · rintro hnil problems ⟨hne, rfl⟩
    exact hne hnil

/-- Where nothing is reported, the values of a draft are those that the form gives. -/
theorem get?_values_draft_eq_givenValue? (hdistinct : (form.fields.map Field.name).Nodup)
    (hnone : ∀ name, form.reported databases submission name = []) :
    (form.draft databases submission).values.get? name =
      form.givenValue? databases submission name := by
  unfold givenValue?
  cases hasks : form.asksForDelimiter databases submission with
  | false =>
    rw [draft_of_not_asks hdistinct hasks, get?_values_cleaned_eq_ownValue? hdistinct]
    simp
  | true =>
    obtain ⟨htyped, -⟩ := draft_of_asks hdistinct hasks
    cases hfound : form.typedDelimiter? databases submission with
    | some text =>
      rw [htyped text hfound, NameTable.get?_insert, get?_values_cleaned_eq_ownValue? hdistinct]
      simp
    | none =>
      -- The want of a delimiter would have been reported.
      have hreported := hnone "otherInput"
      rw [reported, if_pos ⟨rfl, hasks, hfound⟩] at hreported
      exact absurd hreported (by simp)

/-! ## The outcome of the form -/

/-- What a form makes of a submission follows from what each of its fields is by itself. -/
structure IsFieldwise (form : Form) (databases : List Choice) (submission : Submission) :
    Prop where
  /-- A submission is taken in exactly if nothing is reported and there is a database. The values
  are then those of the fields. -/
  accepted : ∀ upload, form.validate databases submission = .ok upload ↔
    (∀ name, form.reported databases submission name = []) ∧ upload.form = form.kind ∧
      (form.ownValue? databases submission "database").bind Value.integer? =
        some upload.databaseId ∧
      upload.schema = ((form.ownText? databases submission "schema").map Text.trim).filter
        (· ≠ "") ∧
      ∀ name, upload.values.get? name = form.givenValue? databases submission name
  /-- A submission is refused exactly with what is reported, name by name, or, if nothing is, for
  want of a database. -/
  refused : ∀ problems, form.validate databases submission = .error problems ↔
    (∃ name, form.reported databases submission name ≠ []) ∧
        (∀ name found, problems.get? name = some found ↔
          found ≠ [] ∧ found = form.reported databases submission name) ∨
      (∀ name, form.reported databases submission name = []) ∧
        (form.ownValue? databases submission "database").bind Value.integer? = none ∧
        problems = Problems.add ∅ "database" .choice

theorem isFieldwise_of_nodup (hdistinct : (form.fields.map Field.name).Nodup) :
    form.IsFieldwise databases submission := by
  have hid : (form.draft databases submission).databaseId? =
      (form.ownValue? databases submission "database").bind Value.integer? := by
    rw [Draft.databaseId?, get?_values_draft hdistinct (by decide), ownValue?]
  have hschema : (form.draft databases submission).schema? =
      ((form.ownText? databases submission "schema").map Text.trim).filter (· ≠ "") := by
    rw [Draft.schema?, Draft.text?, get?_values_draft hdistinct (by decide), ownText?, ownValue?]
  have hempty : (form.draft databases submission).problems.isEmpty = true ↔
      ∀ name, form.reported databases submission name = [] :=
    isEmpty_problems_draft_iff_reported hdistinct
  constructor
  · intro upload
    rw [validate_eq_ok_iff, hempty, hid, hschema]
    constructor
    · rintro ⟨hnone, id, hfound, rfl⟩
      exact ⟨hnone, rfl, hfound, rfl, fun name =>
        get?_values_draft_eq_givenValue? hdistinct hnone⟩
    · rintro ⟨hnone, hform, hfound, hwritten, hvalues⟩
      have hsame : upload.values = (form.draft databases submission).values := by
        apply NameTable.ext_get?
        intro name
        rw [hvalues name, get?_values_draft_eq_givenValue? hdistinct hnone]
      refine ⟨hnone, upload.databaseId, hfound, ?_⟩
      rw [← hwritten, ← hsame, ← hform]
  · intro problems
    unfold validate
    dsimp only
    split
    next hproblems =>
      have hnone := hempty.mp hproblems
      rw [hid]
      cases hfound : (form.ownValue? databases submission "database").bind Value.integer? with
      | some id => simp [hnone]
      | none => simp [hnone, eq_comm]
    next hproblems =>
      have hsome : ∃ name, form.reported databases submission name ≠ [] := by
        simpa using hempty.not.mp hproblems
      have hnot : ¬ ∀ name, form.reported databases submission name = [] := by simpa using hsome
      simp only [hsome, hnot, true_and, false_and, or_false, Except.error.injEq]
      constructor
      · rintro rfl name found
        exact get?_problems_draft hdistinct
      · intro hlisted
        apply NameTable.ext_get?
        intro name
        ext found
        rw [get?_problems_draft hdistinct, hlisted name found]

/-! ## Two runs -/

/-- In whatever order the rows of a form stand, the same of them is found under a name. -/
theorem field?_eq_of_perm {second : Form} (hdistinct : (form.fields.map Field.name).Nodup)
    (hperm : second.fields.Perm form.fields) : second.field? name = form.field? name :=
  find?_eq_of_perm hdistinct hperm name

/-- Forms of the same rows clean submissions to the same draft if these agree on every row. -/
theorem cleaned_congr {second : Form} (hdistinct : (form.fields.map Field.name).Nodup)
    (hperm : second.fields.Perm form.fields)
    (hsame : ∀ field ∈ form.fields, SameInputs field databases others submission other) :
    second.cleaned others other = form.cleaned databases submission := by
  have hsecond : (second.fields.map Field.name).Nodup :=
    (hperm.map Field.name).nodup_iff.mpr hdistinct
  have houtcome : ∀ {name field}, form.field? name = some field →
      cleanField others other field = cleanField databases submission field :=
    fun hfield => (cleanField_congr (hsame _ (List.mem_of_find?_eq_some hfield))).symm
  have hvalues : (second.cleaned others other).values =
      (form.cleaned databases submission).values := by
    apply NameTable.ext_get?
    intro name
    rw [get?_values_cleaned hsecond, get?_values_cleaned hdistinct,
      field?_eq_of_perm hdistinct hperm]
    cases hfield : form.field? name with
    | none => rfl
    | some field => rw [Option.bind_some, Option.bind_some, houtcome hfield]
  have hproblems : (second.cleaned others other).problems =
      (form.cleaned databases submission).problems := by
    apply NameTable.ext_get?
    intro name
    rw [get?_problems_cleaned_eq_ownProblem? hsecond,
      get?_problems_cleaned_eq_ownProblem? hdistinct, ownProblem?, ownProblem?,
      field?_eq_of_perm hdistinct hperm]
    cases hfield : form.field? name with
    | none => rfl
    | some field => rw [Option.bind_some, Option.bind_some, houtcome hfield]
  exact congrArg₂ Draft.mk hvalues hproblems

theorem validate_congr {second : Form} (hkind : second.kind = form.kind)
    (hdistinct : (form.fields.map Field.name).Nodup) (hperm : second.fields.Perm form.fields)
    (hsame : ∀ field ∈ form.fields, SameInputs field databases others submission other) :
    second.validate others other = form.validate databases submission := by
  have hdraft : second.draft others other = form.draft databases submission := by
    rw [draft, draft, hkind, cleaned_congr hdistinct hperm hsame]
  rw [validate, validate, hdraft, hkind]

/-- Validation is local to the fields. The outcome of a field depends on its own inputs alone; a
form of distinct names puts the outcomes side by side, but for the delimiter that is typed in and a
missing database; so that the same rows in any order make the same of two submissions that agree on
the inputs of every row. -/
theorem validate_is_fieldwise (hdistinct : (form.fields.map Field.name).Nodup)
    (databases : List Choice) (submission : Submission) :
    (∀ (field : Field) (others : List Choice) (other : Submission),
        SameInputs field databases others submission other →
          cleanField databases submission field = cleanField others other field) ∧
      form.IsFieldwise databases submission ∧
      ∀ (second : Form) (others : List Choice) (other : Submission), second.kind = form.kind →
        second.fields.Perm form.fields →
        (∀ field ∈ form.fields, SameInputs field databases others submission other) →
          second.validate others other = form.validate databases submission := by
  refine ⟨fun field others other => cleanField_congr, isFieldwise_of_nodup hdistinct, ?_⟩
  intro second others other hkind hperm hsame
  exact validate_congr hkind hdistinct hperm hsame

/-- A name in small letters and underscores. -/
def smallPattern : Pattern :=
  ⟨"^[a-z_]+$", fun s => s ≠ "" && s.toList.all fun c => ('a' ≤ c && c ≤ 'z') || c = '_'⟩

/-- A form with two fields for files, one for a name of a pattern and one for a database. -/
def pairForm : Form :=
  ⟨.columnar,
    [{ name := "data", label := "Data", kind := .files,
        validators := [.fileRequired, .allowedFiles (.ofList ["parquet"]) "Parquet files only."] },
      { name := "notes", label := "Notes", kind := .files },
      { name := "table", label := "Table", kind := .input .text,
        validators := [.pattern smallPattern "Small letters only."] },
      { name := "database", label := "Database", kind := .input .database }]⟩

/-- What the form asks for, in its order. -/
def orderedPair : Submission :=
  ⟨.ofList [("database", "1"), ("table", "Sales")],
    [⟨"data", "a.parquet"⟩, ⟨"data", "b.parquet"⟩, ⟨"notes", "n.txt"⟩]⟩

/-- The same with a field and a file that the form does not ask for, and the files mixed up. -/
def mixedPair : Submission :=
  ⟨.ofList [("comment", "x"), ("database", "1"), ("table", "Sales")],
    [⟨"notes", "n.txt"⟩, ⟨"data", "a.parquet"⟩, ⟨"stray", "s.csv"⟩, ⟨"data", "b.parquet"⟩]⟩

theorem sameInputs_pair : ∀ field ∈ pairForm.fields,
    SameInputs field [⟨1, "warehouse"⟩, ⟨2, "marts"⟩] [⟨2, "sales"⟩, ⟨1, "archive"⟩] orderedPair
      mixedPair := by
  have hids : ∀ id : Int, id ∈ [1, 2] ↔ id ∈ [2, 1] := by
    intro id
    simp [or_comm]
  rw [pairForm, List.forall_mem_cons, List.forall_mem_cons, List.forall_mem_cons,
    List.forall_mem_singleton]
  exact ⟨⟨by decide, by decide, fun _ => hids⟩, ⟨by decide, by decide, fun _ => hids⟩,
    ⟨by decide, by decide, fun _ => hids⟩, ⟨by decide, by decide, fun _ => hids⟩⟩

theorem validate_reversed_pairForm :
    (pairForm.fields.map Field.name).Nodup ∧
      (⟨.columnar, pairForm.fields.reverse⟩ : Form).validate [⟨2, "sales"⟩, ⟨1, "archive"⟩]
          mixedPair =
        pairForm.validate [⟨1, "warehouse"⟩, ⟨2, "marts"⟩] orderedPair := by
  have hdistinct : (pairForm.fields.map Field.name).Nodup := by decide
  have hlocal := validate_is_fieldwise hdistinct [⟨1, "warehouse"⟩, ⟨2, "marts"⟩] orderedPair
  refine ⟨hdistinct, hlocal.2.2 _ _ _ rfl (List.reverse_perm _) sameInputs_pair⟩

end UploadGate.Form
