import Mathlib.Data.List.Basic
import UploadGate.Proofs.Form.Cleaning
import UploadGate.Proofs.Form.Draft

/-! # Forms over more databases

Only a field for a database looks at the databases on offer, and only to find the one that was
asked for. With more of them on offer, a form takes in every submission that it took in before, as
the same upload.
-/

namespace UploadGate.Form

variable {databases more : List Choice} {submission : Submission}

namespace Field

variable {field : Field} {kind : InputKind} {files : List String} {raw : Option String}
  {text : String} {value : Value}

theorem read_of_subset (hmore : ∀ id ∈ databases.map Choice.id, id ∈ more.map Choice.id)
    (h : field.read kind databases text = .ok value) : field.read kind more text = .ok value := by
  cases kind with
  | database =>
    obtain ⟨id, hinteger, hlisted, hvalue⟩ := read_database_eq_ok_iff.mp h
    exact read_database_eq_ok_iff.mpr ⟨id, hinteger, hmore id hlisted, hvalue⟩
  | _ => exact h

theorem cleanInput_of_subset (hmore : ∀ id ∈ databases.map Choice.id, id ∈ more.map Choice.id)
    (h : field.cleanInput kind databases files raw = .ok value) :
    field.cleanInput kind more files raw = .ok value := by
  cases raw with
  | none => exact h
  | some text =>
    simp only [cleanInput] at h ⊢
    -- Whether the field is left blank is decided before anything is read.
    split
    next hblank => rwa [if_pos hblank] at h
    next hblank =>
      rw [if_neg hblank] at h
      split
      next hrequired => rwa [if_pos hrequired] at h
      next hrequired =>
        rw [if_neg hrequired] at h
        obtain ⟨found, hfound, hcheck⟩ := bind_check_eq_ok_iff.mp h
        exact bind_check_eq_ok_iff.mpr ⟨found, read_of_subset hmore hfound, hcheck⟩

theorem clean_of_subset (hmore : ∀ id ∈ databases.map Choice.id, id ∈ more.map Choice.id)
    (h : field.clean databases raw files = .ok value) :
    field.clean more raw files = .ok value := by
  unfold clean at h ⊢
  split
  next hkind => rwa [hkind] at h
  next hkind => rwa [hkind] at h
  next kind hkind =>
    rw [hkind] at h
    exact cleanInput_of_subset hmore h

end Field

variable {form : Form} {upload : Upload}

/-- A form all of whose fields are clean is cleaned to the same draft with more databases. -/
theorem cleaned_of_subset (hmore : ∀ id ∈ databases.map Choice.id, id ∈ more.map Choice.id)
    (hclean : ∀ field ∈ form.fields, ∃ value,
      cleanField databases submission field = .ok value) :
    form.cleaned more submission = form.cleaned databases submission := by
  unfold cleaned
  refine List.foldl_ext _ _ _ fun draft field hfield => ?_
  obtain ⟨value, hvalue⟩ := hclean field hfield
  have hmoreValue : cleanField more submission field = .ok value :=
    Field.clean_of_subset hmore hvalue
  rw [hvalue, hmoreValue]

theorem isEmpty_problems_cleaned_of_draft
    (h : (form.draft databases submission).problems.isEmpty = true) :
    (form.cleaned databases submission).problems.isEmpty = true := by
  unfold draft at h
  split at h
  · exact (Draft.isEmpty_problems_resolveDelimiter_iff.mp h).1
  · exact h

/-- A submission that a form takes in is taken in with more databases, as the same upload. -/
theorem validate_of_subset (hmore : ∀ id ∈ databases.map Choice.id, id ∈ more.map Choice.id)
    (h : form.validate databases submission = .ok upload) :
    form.validate more submission = .ok upload := by
  have hempty := isEmpty_problems_cleaned_of_draft (validate_eq_ok_iff.mp h).1
  have hcleaned := cleaned_of_subset hmore (isEmpty_problems_cleaned_iff.mp hempty)
  have hdraft : form.draft more submission = form.draft databases submission := by
    unfold draft
    rw [hcleaned]
  unfold validate at h ⊢
  rwa [hdraft]

end UploadGate.Form
