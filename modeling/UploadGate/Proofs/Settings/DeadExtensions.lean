import UploadGate.Proofs.Settings.Extensions
import UploadGate.Proofs.Text.Lowercase

/-! # Extensions that no file has

The extension of a file's name stands after its last dot, but only the dots before an extension are
dropped from a list of extensions, not those inside it or at its end. A listed extension without a
dot is that of a file, since both are lowered to the same text. Of one with a dot only what stands
after the last one counts for a file, so that it lets no file in by itself.
-/

namespace UploadGate

/-! ## Names that end in an extension -/

namespace Form

variable {text part extension : String}

/-- What stands after the last dot of a text, or the whole text if it has none. -/
def IsLastPart (text part : String) : Prop :=
  '.' ∉ part.toList ∧ (part = text ∨ ∃ front, text = front ++ "." ++ part)

theorem isLastPart_self (h : '.' ∉ text.toList) : IsLastPart text text := ⟨h, Or.inl rfl⟩

theorem IsLastPart.subset (h : IsLastPart text part) : part.toList ⊆ text.toList := by
  obtain ⟨-, rfl | ⟨front, rfl⟩⟩ := h
  · exact fun _ hc => hc
  · simp

/-- A file's name of a stem, a dot and a text has the last part of the text for its extension. -/
theorem hasExtension_append_iff {stem : String} (hstem : stem ≠ "") :
    HasExtension (stem ++ "." ++ text) extension ↔
      ∃ part, IsLastPart text part ∧ part ≠ "" ∧ Text.lower part = extension := by
  constructor
  · rintro ⟨front, suffix, hname, hdot, hfront, hsuffix, rfl⟩
    refine ⟨.ofList suffix, ⟨by simpa using hdot, ?_⟩, by simpa using hsuffix, rfl⟩
    have hlists : stem.toList ++ '.' :: text.toList = front ++ '.' :: suffix := by
      simpa using hname
    -- The last dot is the one after the stem, or one in the text.
    rcases List.append_eq_append_iff.mp hlists with ⟨middle, -, hmiddle⟩ | ⟨middle, -, hmiddle⟩
    · cases middle with
      | nil =>
        left
        rw [← String.toList_inj]
        simpa using (List.cons.inj hmiddle).2.symm
      | cons first middle =>
        right
        refine ⟨.ofList middle, ?_⟩
        rw [← String.toList_inj]
        simpa using (List.cons.inj hmiddle).2
    · cases middle with
      | nil =>
        left
        rw [← String.toList_inj]
        simpa using (List.cons.inj hmiddle).2
      | cons first middle =>
        -- A dot would stand in the suffix.
        have hmem : '.' ∈ suffix := by
          rw [(List.cons.inj hmiddle).2]
          simp
        exact absurd hmem hdot
  · rintro ⟨part, ⟨hdot, hpart⟩, hne, rfl⟩
    have hstemList : stem.toList ≠ [] := by simpa using hstem
    have hpartList : part.toList ≠ [] := by simpa using hne
    rcases hpart with rfl | ⟨front, rfl⟩
    · exact ⟨stem.toList, part.toList, by simp, hdot, hstemList, hpartList,
        by rw [String.ofList_toList]⟩
    · exact ⟨stem.toList ++ '.' :: front.toList, part.toList, by simp, hdot, by simp, hpartList,
        by rw [String.ofList_toList]⟩

end Form

/-! ## Extensions from variables -/

namespace Settings

open Form (IsLastPart)
open Form.Validator (fileAllowed)

variable {lookup : Lookup} {settings : Settings} {kind : Form.Kind} {extension part : String}

/-- Every listed extension is in lower case and not empty. -/
theorem LetsIn.lower_ne_empty (h : LetsIn lookup kind extension) :
    Text.lower extension = extension ∧ extension ≠ "" := by
  by_cases hset : ∃ text, Sets lookup (extensionsVariable kind) text
  · obtain ⟨text, hset⟩ := hset
    obtain ⟨hne, piece, -, rfl⟩ := h.own text hset
    exact ⟨Text.lower_lower _, hne⟩
  · have hbuiltIn : ∀ kind, ∀ extension ∈ (UploadSettings.ownDefault kind).toList,
        Text.lower extension = extension ∧ extension ≠ "" := by
      intro kind
      cases kind <;> decide +kernel
    exact hbuiltIn kind extension (h.builtIn (by simpa using hset))

/-- So is every last part of it in lower case. -/
theorem LetsIn.lower_lastPart (h : LetsIn lookup kind extension)
    (hpart : IsLastPart extension part) :
    Text.lower part = part := by
  have hsubset := hpart.subset
  rw [← h.lower_ne_empty.1] at hsubset
  exact Text.lower_of_subset hsubset

/-- Files of a form are checked against the extensions that it takes in. -/
theorem exists_field?_fileAllowed (settings : UploadSettings) (kind : Form.Kind) :
    ∃ field, (Form.catalog settings kind).field? kind.fileField = some field ∧
      fileAllowed (settings.extensionsFor kind) ∈ field.validators := by
  cases kind <;> exact ⟨_, rfl, by simp [Form.fileUpload]⟩

/-- A file with a listed extension passes its form if the last part of the extension is listed too,
as it is if the extension has no dot. -/
theorem fileAllowed_passes_iff_lastPart (h : load lookup = .ok settings) (kind : Form.Kind)
    (hmem : extension ∈ settings.upload.extensionsFor kind) :
    (∃ field, (Form.catalog settings.upload kind).field? kind.fileField = some field ∧
      fileAllowed (settings.upload.extensionsFor kind) ∈ field.validators) ∧
    (∀ value, (fileAllowed (settings.upload.extensionsFor kind)).problem? value
        ["data." ++ extension] = none ↔
      ∃ part ∈ settings.upload.extensionsFor kind, IsLastPart extension part) ∧
    ('.' ∉ extension.toList → ∀ value,
      (fileAllowed (settings.upload.extensionsFor kind)).problem? value ["data." ++ extension] =
        none) := by
  have hlets := (mem_extensionsFor_iff_letsIn h).mp hmem
  have hname : "data." ++ extension = "data" ++ "." ++ extension := rfl
  have hpasses : ∀ value, (fileAllowed (settings.upload.extensionsFor kind)).problem? value
      ["data." ++ extension] = none ↔
        ∃ part ∈ settings.upload.extensionsFor kind, IsLastPart extension part := by
    intro value
    rw [Form.Validator.problem?_fileAllowed_eq_none_iff, List.forall_mem_singleton, hname]
    simp only [Form.hasExtension_append_iff (by decide : "data" ≠ "")]
    constructor
    · rintro ⟨_, hlisted, part, hpart, -, rfl⟩
      rw [hlets.lower_lastPart hpart] at hlisted
      exact ⟨part, hlisted, hpart⟩
    · rintro ⟨part, hlisted, hpart⟩
      have hlistedPart := (mem_extensionsFor_iff_letsIn h).mp hlisted
      exact ⟨part, hlisted, part, hpart, hlistedPart.lower_ne_empty.2,
        hlets.lower_lastPart hpart⟩
  exact ⟨exists_field?_fileAllowed settings.upload kind, hpasses,
    fun hdot value => (hpasses value).mpr ⟨extension, hmem, Form.isLastPart_self hdot⟩⟩

/-- Variables that list an extension with a dot inside. -/
def archives : Lookup
  | "CSV_EXTENSIONS" => some "csv,tar.gz"
  | _ => none

theorem exists_load_archives : ∃ settings, load archives = .ok settings ∧
    (settings.upload.extensionsFor .csv).toList = ["csv", "tar.gz"] := by
  obtain ⟨settings, hsettings⟩ : ∃ settings, load archives = .ok settings := ⟨_, rfl⟩
  have hextensions : (load archives).toOption.map
      (fun settings => (settings.upload.extensionsFor .csv).toList) = some ["csv", "tar.gz"] := by
    decide +kernel
  rw [hsettings] at hextensions
  exact ⟨settings, hsettings, Option.some.inj hextensions⟩

theorem archives_fileAllowed_passes_iff_lastPart :
    ∃ settings, load archives = .ok settings ∧ "csv" ∈ settings.upload.extensionsFor .csv ∧
      ∀ value, (fileAllowed (settings.upload.extensionsFor .csv)).problem? value
        ["data." ++ "csv"] = none := by
  obtain ⟨settings, hsettings, hextensions⟩ := exists_load_archives
  have hmem : "csv" ∈ settings.upload.extensionsFor .csv := by
    rw [NameSet.mem_def, hextensions]
    decide
  exact ⟨settings, hsettings, hmem,
    (fileAllowed_passes_iff_lastPart hsettings .csv hmem).2.2 (by decide)⟩

/-- A listed extension with a dot inside lets no file in. -/
theorem listed_extension_lets_no_file_in :
    ¬ ∀ (lookup : Lookup) (settings : Settings) (kind : Form.Kind) (extension : String),
      load lookup = .ok settings → extension ∈ settings.upload.extensionsFor kind →
      ∀ value, (fileAllowed (settings.upload.extensionsFor kind)).problem? value
        ["data." ++ extension] = none := by
  intro hall
  obtain ⟨settings, hsettings, hextensions⟩ := exists_load_archives
  have hmem : "tar.gz" ∈ settings.upload.extensionsFor .csv := by
    rw [NameSet.mem_def, hextensions]
    decide
  have hpasses := hall archives settings .csv "tar.gz" hsettings hmem .null
  rw [Form.Validator.problem?_fileAllowed_eq_none_iff, List.forall_mem_singleton] at hpasses
  obtain ⟨extension, hlisted, hextension⟩ := hpasses
  have hgz : Form.fileExtension ("data." ++ "tar.gz") = some "gz" := by decide +kernel
  rw [← Form.fileExtension_eq_some_iff, hgz, Option.some.injEq] at hextension
  rw [NameSet.mem_def, hextensions, ← hextension] at hlisted
  exact absurd hlisted (by decide)

end Settings

end UploadGate
