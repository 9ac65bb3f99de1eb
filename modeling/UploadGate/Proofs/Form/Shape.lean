import Mathlib.Data.List.Sigma
import UploadGate.Form.Shape
import UploadGate.Proofs.ErrorTree

/-! # Misshapen files

The shape of a submission is wrong in exactly those files that do not name their field, or have a
name of their own that is empty or too long. Each such part is reported under the path of its own,
with its own message. The fields of a submission never make its shape wrong.
-/

namespace UploadGate.Form

open ErrorTree (fieldNodes itemNodes memberOfItem ItemFields)

namespace UploadedFile

variable {file : UploadedFile} {part message : String}

/-- What is wrong with the shape of a file: the part, and what is said about it. -/
inductive Misses (file : UploadedFile) : String → String → Prop
  | field (hempty : file.field = "") : Misses file "field" "File field name is required"
  | filename (hlength : ¬ (1 ≤ file.filename.length ∧ file.filename.length ≤ 255)) :
      Misses file "filename" "File name must be 1-255 characters"

/-- The parts of a file with their issues, if there are any. -/
def faults (file : UploadedFile) : List (String × List Issue) :=
  [("field", file.fieldIssues), ("filename", file.filenameIssues)].filter (·.2 ≠ [])

theorem errors_eq_fieldNodes (file : UploadedFile) : file.errors = fieldNodes file.faults := by
  by_cases hfield : file.fieldIssues = [] <;> by_cases hname : file.filenameIssues = [] <;>
    simp [errors, faults, fieldNodes, hfield, hname]

theorem nodup_map_fst_faults (file : UploadedFile) : (file.faults.map Prod.fst).Nodup :=
  (List.filter_sublist.map Prod.fst).nodup (by decide : ["field", "filename"].Nodup)

theorem mem_faults_iff {issues : List Issue} :
    (part, issues) ∈ file.faults ↔
      ∃ message, file.Misses part message ∧ issues = [⟨"length", some message⟩] := by
  constructor
  · intro hmem
    obtain ⟨hmem, hissues⟩ := List.mem_filter.mp hmem
    simp only [List.mem_cons, Prod.mk.injEq, List.not_mem_nil, or_false] at hmem
    obtain ⟨rfl, rfl⟩ | ⟨rfl, rfl⟩ := hmem
    · have hempty : file.field = "" := by
        by_contra hne
        simp [fieldIssues, hne] at hissues
      exact ⟨_, .field hempty, if_pos hempty⟩
    · have hlength : ¬ (1 ≤ file.filename.length ∧ file.filename.length ≤ 255) := by
        intro hlength
        simp [filenameIssues, filenameLimit, hlength] at hissues
      exact ⟨_, .filename hlength, if_neg hlength⟩
  · rintro ⟨message, hmisses, rfl⟩
    cases hmisses with
    | field hempty => simp [faults, fieldIssues, hempty]
    | filename hlength => simp [faults, filenameIssues, filenameLimit, hlength]

end UploadedFile

namespace Submission

variable {submission : Submission} {path : String}

/-- What is wrong with the shape of a submission: the path of a part of a file, and the message. -/
inductive Misses (submission : Submission) : String → String → Prop
  | file {index : Nat} {file : UploadedFile} {part message : String}
      (hfile : submission.files[index]? = some file) (hmisses : file.Misses part message) :
      Misses submission (memberOfItem "files" index part) message

/-- The files with faults, by their indices. -/
def faultyFiles (submission : Submission) : List ItemFields :=
  submission.files.zipIdx.filterMap fun (file, index) =>
    if file.faults = [] then none else some (index, file.faults)

theorem fileErrors_eq_itemNodes (submission : Submission) :
    submission.fileErrors = itemNodes submission.faultyFiles := by
  rw [fileErrors, itemNodes, faultyFiles, List.map_filterMap]
  congr 1
  funext entry
  obtain ⟨file, index⟩ := entry
  simp only [file.errors_eq_fieldNodes]
  by_cases h : file.faults = [] <;> simp [fieldNodes, h]

theorem mem_faultyFiles_iff {item : ItemFields} :
    item ∈ submission.faultyFiles ↔
      ∃ file, submission.files[item.1]? = some file ∧ file.faults = item.2 ∧ item.2 ≠ [] := by
  obtain ⟨index, faults⟩ := item
  simp only [faultyFiles, List.mem_filterMap, Prod.exists, List.mk_mem_zipIdx_iff_getElem?]
  constructor
  · rintro ⟨file, _, hfile, hsome⟩
    split at hsome
    · exact absurd hsome (by simp)
    next hfaults =>
      obtain ⟨rfl, rfl⟩ := Prod.mk.inj (Option.some.inj hsome)
      exact ⟨file, hfile, rfl, hfaults⟩
  · rintro ⟨file, hfile, rfl, hfaults⟩
    exact ⟨file, index, hfile, if_neg hfaults⟩

theorem nodup_map_fst_faultyFiles (submission : Submission) :
    (submission.faultyFiles.map Prod.fst).Nodup := by
  rw [faultyFiles, List.Nodup, List.pairwise_map, List.pairwise_filterMap]
  refine (List.pairwise_map.mp (List.nodup_zipIdx_map_snd submission.files)).imp ?_
  rintro ⟨first, index⟩ ⟨second, other⟩ hne item hitem item' hitem'
  obtain ⟨-, hitem⟩ := Option.ite_none_left_eq_some.mp hitem
  obtain ⟨-, hitem'⟩ := Option.ite_none_left_eq_some.mp hitem'
  rw [← Option.some.inj hitem, ← Option.some.inj hitem']
  exact hne

theorem exists_mem_faultyFiles_iff {issues : List Issue} :
    (∃ item ∈ submission.faultyFiles, ∃ fault ∈ item.2,
        memberOfItem "files" item.1 fault.1 = path ∧ fault.2 = issues) ↔
      ∃ message, submission.Misses path message ∧ issues = [⟨"length", some message⟩] := by
  constructor
  · rintro ⟨⟨index, _⟩, hitem, ⟨part, _⟩, hfault, rfl, rfl⟩
    obtain ⟨file, hfile, rfl, -⟩ := mem_faultyFiles_iff.mp hitem
    obtain ⟨message, hmisses, rfl⟩ := UploadedFile.mem_faults_iff.mp hfault
    exact ⟨message, .file hfile hmisses, rfl⟩
  · rintro ⟨message, hmisses, rfl⟩
    obtain ⟨hfile, hmisses⟩ := hmisses
    have hfault := UploadedFile.mem_faults_iff.mpr ⟨_, hmisses, rfl⟩
    exact ⟨(_, _), mem_faultyFiles_iff.mpr ⟨_, hfile, rfl, List.ne_nil_of_mem hfault⟩, _, hfault,
      rfl, rfl⟩

theorem isEmpty_shapeErrors_iff :
    submission.shapeErrors.isEmpty = true ↔ ∀ path message, ¬ submission.Misses path message := by
  have hempty : submission.shapeErrors.isEmpty = true ↔ submission.faultyFiles = [] := by
    rw [shapeErrors, fileErrors_eq_itemNodes, itemNodes]
    cases submission.faultyFiles <;> simp
  rw [hempty]
  constructor
  · intro hnil path message hmisses
    obtain ⟨item, hitem, -⟩ := exists_mem_faultyFiles_iff.mpr ⟨message, hmisses, rfl⟩
    exact List.ne_nil_of_mem hitem hnil
  · intro hnone
    rw [List.eq_nil_iff_forall_not_mem]
    intro item hitem
    obtain ⟨file, hfile, hfaults, hne⟩ := mem_faultyFiles_iff.mp hitem
    obtain ⟨⟨part, issues⟩, hfault⟩ := List.exists_mem_of_ne_nil _ hne
    obtain ⟨message, hmisses, -⟩ := UploadedFile.mem_faults_iff.mp (hfaults ▸ hfault)
    exact hnone _ _ (.file hfile hmisses)

/-- Under each path stands what is wrong with the part, and nothing else. -/
theorem get?_messages_shapeErrors_eq_some_iff {texts : List String} :
    submission.shapeErrors.messages.get? path = some texts ↔
      ∃ message, submission.Misses path message ∧ texts = [message] := by
  have htree : submission.shapeErrors.messages.get? path =
      (ErrorTree.messages [("files", .items (itemNodes submission.faultyFiles))]).get? path := by
    rw [shapeErrors, fileErrors_eq_itemNodes]
    split
    next hnil => rw [List.isEmpty_iff.mp hnil]; rfl
    next => rfl
  have hnames : ∀ item ∈ submission.faultyFiles, (item.2.map Prod.fst).Nodup := by
    intro item hitem
    obtain ⟨file, -, hfaults, -⟩ := mem_faultyFiles_iff.mp hitem
    rw [← hfaults]
    exact file.nodup_map_fst_faults
  rw [htree, ErrorTree.get?_messages_items (nodup_map_fst_faultyFiles submission) hnames]
  constructor
  · rintro ⟨item, hitem, fault, hfault, hpath, rfl⟩
    obtain ⟨message, hmisses, hissues⟩ :=
      exists_mem_faultyFiles_iff.mp ⟨item, hitem, fault, hfault, hpath, rfl⟩
    exact ⟨message, hmisses, by rw [hissues]; rfl⟩
  · rintro ⟨message, hmisses, rfl⟩
    obtain ⟨item, hitem, fault, hfault, hpath, hissues⟩ :=
      exists_mem_faultyFiles_iff.mpr ⟨message, hmisses, rfl⟩
    exact ⟨item, hitem, fault, hfault, hpath, by rw [hissues]; rfl⟩

/-! ## Paths of the faults -/

theorem misses_iff {message : String} :
    submission.Misses path message ↔
      ∃ (index : Nat) (file : UploadedFile) (part : String),
        submission.files[index]? = some file ∧ file.Misses part message ∧
          path = "files[" ++ toString index ++ "]." ++ part := by
  have hpath : ∀ index part,
      memberOfItem "files" index part = "files[" ++ toString index ++ "]." ++ part :=
    fun index part => ErrorTree.memberOfItem_eq "files" index part
  constructor
  · rintro ⟨hfile, hmisses⟩
    exact ⟨_, _, _, hfile, hmisses, hpath _ _⟩
  · rintro ⟨index, file, part, hfile, hmisses, rfl⟩
    rw [← hpath]
    exact .file hfile hmisses

theorem exists_misses_iff :
    (∃ path message, submission.Misses path message) ↔
      ∃ file ∈ submission.files,
        file.field = "" ∨ file.filename.length = 0 ∨ 255 < file.filename.length := by
  simp only [List.mem_iff_getElem?]
  constructor
  · rintro ⟨path, message, hmisses⟩
    obtain ⟨hfile, hmisses⟩ := hmisses
    refine ⟨_, ⟨_, hfile⟩, ?_⟩
    cases hmisses with
    | field hempty => exact Or.inl hempty
    | filename hlength => omega
  · rintro ⟨file, ⟨index, hfile⟩, hempty | hlength⟩
    · exact ⟨_, _, .file hfile (.field hempty)⟩
    · exact ⟨_, _, .file hfile (.filename (by omega))⟩

/-- A submission is misshapen if some file does not name its field, or has a name of its own without
characters or with more than 255 of them. Then exactly the parts of files that are at fault have an
entry, under the index of the file, and with a single message. What the fields hold never counts. -/
theorem shapeErrors_point_at_files (submission : Submission) :
    (submission.shapeErrors ≠ [] ↔
      ∃ file ∈ submission.files,
        file.field = "" ∨ file.filename.length = 0 ∨ 255 < file.filename.length) ∧
    (∀ path texts, submission.shapeErrors.messages.get? path = some texts ↔
      ∃ (index : Nat) (file : UploadedFile) (part message : String),
        submission.files[index]? = some file ∧ file.Misses part message ∧
          path = "files[" ++ toString index ++ "]." ++ part ∧ texts = [message]) ∧
    ∀ fields, (⟨fields, submission.files⟩ : Submission).shapeErrors = submission.shapeErrors := by
  refine ⟨?_, fun path texts => ?_, fun fields => rfl⟩
  · rw [← exists_misses_iff, ne_eq, ← List.isEmpty_iff, isEmpty_shapeErrors_iff]
    simp only [not_forall, not_not]
  · rw [get?_messages_shapeErrors_eq_some_iff]
    simp only [misses_iff]
    constructor
    · rintro ⟨message, ⟨index, file, part, hfile, hmisses, rfl⟩, rfl⟩
      exact ⟨index, file, part, message, hfile, hmisses, rfl, rfl⟩
    · rintro ⟨index, file, part, message, hfile, hmisses, rfl, rfl⟩
      exact ⟨message, ⟨index, file, part, hfile, hmisses, rfl⟩, rfl⟩

end Submission

end UploadGate.Form
