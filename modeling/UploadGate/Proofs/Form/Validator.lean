import Mathlib.Tactic.Common
import UploadGate.Form.Validator

/-! # What validators find nothing wrong with

The extension of a file's name as a relation, and for each validator the values and files that it
lets pass.
-/

namespace UploadGate.Form

/-- A file's name ends in a dot and an extension, compared in lower case; neither the extension nor
what stands before the dot is empty. -/
def HasExtension (filename extension : String) : Prop :=
  ∃ stem suffix : List Char, filename.toList = stem ++ '.' :: suffix ∧ '.' ∉ suffix ∧
    stem ≠ [] ∧ suffix ≠ [] ∧ Text.lower (.ofList suffix) = extension

theorem fileExtension_eq_some_iff {filename extension : String} :
    fileExtension filename = some extension ↔ HasExtension filename extension := by
  unfold fileExtension
  cases hcut : Text.cutLast '.' filename.toList with
  | none =>
    have hnot : ¬ HasExtension filename extension := by
      rintro ⟨stem, suffix, hname, hdot, -⟩
      rw [Text.cutLast_eq_some_iff.mpr ⟨hname, hdot⟩] at hcut
      exact absurd hcut (by simp)
    simp [hnot]
  | some parts =>
    obtain ⟨stem, suffix⟩ := parts
    obtain ⟨hname, hdot⟩ := Text.cutLast_eq_some_iff.mp hcut
    dsimp only
    constructor
    · intro h
      split at h
      next => exact absurd h (by simp)
      next hempty =>
        rw [not_or] at hempty
        exact ⟨stem, suffix, hname, hdot, hempty.1, hempty.2, Option.some.inj h⟩
    · rintro ⟨stem', suffix', hname', hdot', hstem, hsuffix, rfl⟩
      -- The place of the last dot is determined by the name.
      have hsame : Text.cutLast '.' filename.toList = some (stem', suffix') :=
        Text.cutLast_eq_some_iff.mpr ⟨hname', hdot'⟩
      obtain ⟨rfl, rfl⟩ := Prod.mk.inj (Option.some.inj (hcut.symm.trans hsame))
      simp [hstem, hsuffix]

namespace Validator

theorem allowsFile_iff {extensions : NameSet} {filename : String} :
    allowsFile extensions filename = true ↔
      ∃ extension ∈ extensions, HasExtension filename extension := by
  simp only [allowsFile, Option.any_eq_true, decide_eq_true_eq, fileExtension_eq_some_iff]
  exact exists_congr fun _ => and_comm

variable {files : List String} {value : Value}

@[simp] theorem problem?_dataRequired : dataRequired.problem? value files = none := by
  cases value <;> rfl

@[simp] theorem problem?_optional : optional.problem? value files = none := by
  cases value <;> rfl

@[simp] theorem problem?_fileRequired : fileRequired.problem? value files = none := by
  cases value <;> rfl

@[simp] theorem problem?_fileAllowed_eq_none_iff {extensions : NameSet} :
    (fileAllowed extensions).problem? value files = none ↔
      ∀ filename ∈ files, ∃ extension ∈ extensions, HasExtension filename extension := by
  simp [problem?_fileAllowed, allowsFile_iff]

@[simp] theorem problem?_pattern_text_eq_none_iff {asked : Pattern} {message text : String} :
    (pattern asked message).problem? (.text text) files = none ↔ asked.accepts text = true := by
  rw [problem?_pattern_text]
  simp

@[simp] theorem problem?_exactLength_text_eq_none_iff {n : Nat} {text : String} :
    (exactLength n).problem? (.text text) files = none ↔ text.length = n := by
  simp only [exactLength, problem?_length_text, withinBounds, Option.all_some, Bool.and_eq_true,
    decide_eq_true_eq, ite_eq_left_iff, reduceCtorEq, imp_false, not_not]
  omega

@[simp] theorem problem?_atLeast_integer_eq_none_iff {bound n : Int} :
    (atLeast bound).problem? (.integer n) files = none ↔ bound ≤ n := by
  simp [atLeast, problem?_range_integer, withinBounds]

end Validator

end UploadGate.Form
