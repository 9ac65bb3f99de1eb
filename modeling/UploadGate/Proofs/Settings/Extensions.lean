import UploadGate.Proofs.Form.Problems
import UploadGate.Proofs.Outcome
import UploadGate.Proofs.Text.Trimmed
import UploadGate.Settings.Basic

/-! # Which files the variables let in

A form takes in the extensions that its own variable lists, or else its built-in ones, as far as the
variable for all forms lists them too, if that is set. The variables of the other forms have no say,
although the extensions for all forms are put together from them where none are set.
-/

namespace UploadGate

/-! ## Lists of extensions -/

namespace UploadSettings

variable {text extension : String} {own : Form.Kind → Option String} {allowed : Option String}
  {nullNames : List String} {kind : Form.Kind}

/-- An entry of a list of extensions: a piece between commas without the white space around it and
the dots before it, in lower case, unless nothing is left. -/
def IsEntry (text extension : String) : Prop :=
  extension ≠ "" ∧ ∃ piece ∈ Text.split ',' text.toList,
    Text.lower (.ofList ((Text.strip Text.isBlank piece).dropWhile (· = '.'))) = extension

theorem mem_readExtensions_iff : extension ∈ readExtensions text ↔ IsEntry text extension := by
  simp only [readExtensions, NameSet.mem_ofList, List.mem_filter, List.mem_map, decide_eq_true_eq,
    IsEntry]
  exact and_comm

/-- White space around a list makes no difference to its entries. -/
theorem isEntry_trim : IsEntry (Text.trim text) extension ↔ IsEntry text extension := by
  have hpieces : ∀ cs : List Char,
      (∃ piece ∈ Text.split ',' cs, Text.lower
          (.ofList ((Text.strip Text.isBlank piece).dropWhile (· = '.'))) = extension) ↔
        ∃ piece ∈ (Text.split ',' cs).map (Text.strip Text.isBlank),
          Text.lower (.ofList (piece.dropWhile (· = '.'))) = extension := by
    simp
  have hcomma : Text.isBlank ',' = false := by decide
  rw [IsEntry, IsEntry, hpieces, hpieces, Text.toList_trim, Text.map_strip_split_strip hcomma]

theorem own_ofTexts :
    (ofTexts own allowed nullNames).own kind =
      (own kind).elim (ownDefault kind) readExtensions := by
  cases kind <;> rfl

/-- Without a list for all forms, each form's own extensions are among those for all forms. -/
theorem mem_allowed_of_mem_own (h : extension ∈ (ofTexts own none nullNames).own kind) :
    extension ∈ (ofTexts own none nullNames).allowed := by
  simp only [ofTexts, Option.elim_none, NameSet.mem_union]
  cases kind with
  | csv => exact Or.inl (Or.inl h)
  | excel => exact Or.inl (Or.inr h)
  | columnar => exact Or.inr h

/-- A form takes in the extensions of its own that the list for all forms has too, if there is
one. -/
theorem mem_extensionsFor_ofTexts :
    extension ∈ (ofTexts own allowed nullNames).extensionsFor kind ↔
      extension ∈ (own kind).elim (ownDefault kind) readExtensions ∧
        ∀ text, allowed = some text → IsEntry text extension := by
  rw [extensionsFor, NameSet.mem_inter, ← @own_ofTexts own allowed nullNames]
  cases allowed with
  | none => simpa using mem_allowed_of_mem_own
  | some list =>
    have hallowed : (ofTexts own (some list) nullNames).allowed = readExtensions list := rfl
    rw [hallowed, mem_readExtensions_iff]
    simp [and_comm]

end UploadSettings

/-! ## Variables -/

namespace Settings

variable {lookup other : Lookup} {settings otherSettings : Settings} {key : Variable}
  {kind : Form.Kind} {name text extension filename : String}

/-- A variable is set to a text that is not blank. -/
def Sets (lookup : Lookup) (name text : String) : Prop :=
  lookup name = some text ∧ Text.blank text = false

theorem get_eq_some_iff :
    get lookup key = some text ↔ ∃ raw, Sets lookup key.name raw ∧ Text.trim raw = text := by
  simp only [get, Option.filter_eq_some_iff, Option.map_eq_some_iff, decide_eq_true_eq, Sets,
    Bool.eq_false_iff, ne_eq, Text.blank_iff_trim_eq_empty]
  constructor
  · rintro ⟨⟨raw, hraw, rfl⟩, hne⟩
    exact ⟨raw, ⟨hraw, hne⟩, rfl⟩
  · rintro ⟨raw, ⟨hraw, hne⟩, rfl⟩
    exact ⟨⟨raw, hraw, rfl⟩, hne⟩

theorem get_eq_none_iff : get lookup key = none ↔ ∀ text, ¬ Sets lookup key.name text := by
  rw [Option.eq_none_iff_forall_ne_some]
  constructor
  · exact fun h text hset => h _ (get_eq_some_iff.mpr ⟨text, hset, rfl⟩)
  · intro h text htext
    obtain ⟨raw, hset, -⟩ := get_eq_some_iff.mp htext
    exact h raw hset

theorem exists_get_iff {p : String → Prop} :
    (∃ text, get lookup key = some text ∧ p text) ↔
      ∃ text, Sets lookup key.name text ∧ p (Text.trim text) := by
  constructor
  · rintro ⟨text, htext, hp⟩
    obtain ⟨raw, hset, rfl⟩ := get_eq_some_iff.mp htext
    exact ⟨raw, hset, hp⟩
  · rintro ⟨raw, hset, hp⟩
    exact ⟨Text.trim raw, get_eq_some_iff.mpr ⟨raw, hset, rfl⟩, hp⟩

theorem forall_get_iff {p : String → Prop} :
    (∀ text, get lookup key = some text → p text) ↔
      ∀ text, Sets lookup key.name text → p (Text.trim text) := by
  rw [← not_iff_not]
  push Not
  exact exists_get_iff

/-- What settings that can be read are made of. -/
theorem load_eq_ok_iff :
    load lookup = .ok settings ↔ ∃ port maxConnections connectTimeout names,
      number lookup .port 65535 8082 = .ok port ∧
      number lookup .maxConnections 4294967295 5 = .ok maxConnections ∧
      number lookup .connectTimeout 18446744073709551615 10 = .ok connectTimeout ∧
      nullNames lookup = .ok names ∧
      settings = {
        host := (get lookup .host).getD "0.0.0.0"
        port
        databaseUrl := get lookup .databaseUrl
        maxConnections
        connectTimeout
        permissionsFile := get lookup .permissionsFile
        securityServiceUrl := (get lookup .securityServiceUrl).map withoutSlashes
        upload :=
          .ofTexts (get lookup <| .extensions ·) (get lookup .allowedExtensions) names } := by
  simp only [load, bind_eq_ok_iff]
  constructor
  · rintro ⟨port, hport, maxConnections, hconnections, connectTimeout, htimeout, names, hnames, h⟩
    exact ⟨port, maxConnections, connectTimeout, names, hport, hconnections, htimeout, hnames,
      (Except.ok.inj h).symm⟩
  · rintro ⟨port, maxConnections, connectTimeout, names, hport, hconnections, htimeout, hnames, rfl⟩
    exact ⟨port, hport, maxConnections, hconnections, connectTimeout, htimeout, names, hnames, rfl⟩

/-- The variable that lists a form's own extensions. -/
def extensionsVariable : Form.Kind → String
  | .csv => "CSV_EXTENSIONS"
  | .excel => "EXCEL_EXTENSIONS"
  | .columnar => "COLUMNAR_EXTENSIONS"

/-- The variables let a form take in an extension. -/
structure LetsIn (lookup : Lookup) (kind : Form.Kind) (extension : String) : Prop where
  own : ∀ text, Sets lookup (extensionsVariable kind) text →
    UploadSettings.IsEntry text extension
  builtIn : (∀ text, ¬ Sets lookup (extensionsVariable kind) text) →
    extension ∈ UploadSettings.ownDefault kind
  allowed : ∀ text, Sets lookup "ALLOWED_EXTENSIONS" text →
    UploadSettings.IsEntry text extension

theorem letsIn_iff :
    LetsIn lookup kind extension ↔
      (∀ text, Sets lookup (extensionsVariable kind) text →
        UploadSettings.IsEntry text extension) ∧
      ((∀ text, ¬ Sets lookup (extensionsVariable kind) text) →
        extension ∈ UploadSettings.ownDefault kind) ∧
      ∀ text, Sets lookup "ALLOWED_EXTENSIONS" text → UploadSettings.IsEntry text extension :=
  ⟨fun h => ⟨h.own, h.builtIn, h.allowed⟩, fun h => ⟨h.1, h.2.1, h.2.2⟩⟩

theorem name_extensions : (Variable.extensions kind).name = extensionsVariable kind := by
  cases kind <;> rfl

/-- The text that a variable is read as has the entries of the one that it is set to. -/
theorem forall_get_isEntry_iff :
    (∀ text, get lookup key = some text → UploadSettings.IsEntry text extension) ↔
      ∀ text, Sets lookup key.name text → UploadSettings.IsEntry text extension := by
  rw [forall_get_iff]
  simp only [UploadSettings.isEntry_trim]

/-- Of a variable the entries count, and the default ones if it is not set. -/
theorem mem_elim_get_iff {default : NameSet} :
    extension ∈ (get lookup key).elim default UploadSettings.readExtensions ↔
      (∀ text, Sets lookup key.name text → UploadSettings.IsEntry text extension) ∧
        ((∀ text, ¬ Sets lookup key.name text) → extension ∈ default) := by
  rw [← forall_get_isEntry_iff, ← get_eq_none_iff]
  cases get lookup key with
  | none => simp
  | some text => simp [UploadSettings.mem_readExtensions_iff]

/-- The extensions that a form takes in are those that the variables let in. -/
theorem mem_extensionsFor_iff_letsIn (h : load lookup = .ok settings) :
    extension ∈ settings.upload.extensionsFor kind ↔ LetsIn lookup kind extension := by
  obtain ⟨-, -, -, names, -, -, -, -, rfl⟩ := load_eq_ok_iff.mp h
  rw [UploadSettings.mem_extensionsFor_ofTexts, mem_elim_get_iff, forall_get_isEntry_iff,
    name_extensions]
  rw [letsIn_iff, and_assoc]
  rfl

/-- What the variables let a form in for stays when the one for all forms is no longer set. -/
theorem LetsIn.of_unset (h : LetsIn lookup kind extension)
    (hown : other (extensionsVariable kind) = lookup (extensionsVariable kind))
    (hunset : ∀ text, ¬ Sets other "ALLOWED_EXTENSIONS" text) : LetsIn other kind extension := by
  have hsets : ∀ text, Sets other (extensionsVariable kind) text ↔
      Sets lookup (extensionsVariable kind) text := by simp [Sets, hown]
  exact
    { own := fun text hset => h.own text ((hsets text).mp hset)
      builtIn := fun hnone => h.builtIn fun text hset => hnone text ((hsets text).mpr hset)
      allowed := fun text hset => absurd hset (hunset text) }

/-- No other variable has a say. -/
theorem LetsIn.congr (h : LetsIn lookup kind extension)
    (hown : other (extensionsVariable kind) = lookup (extensionsVariable kind))
    (hallowed : other "ALLOWED_EXTENSIONS" = lookup "ALLOWED_EXTENSIONS") :
    LetsIn other kind extension := by
  simpa only [letsIn_iff, Sets, hown, hallowed] using h

/-! ## Files -/

/-- A file's name ends in a dot and an extension that the variables let in, in lower case; neither
the extension nor what stands before the dot is empty. -/
def LetsInFile (lookup : Lookup) (kind : Form.Kind) (filename : String) : Prop :=
  ∃ stem extension : String, filename = stem ++ "." ++ extension ∧ stem ≠ "" ∧ extension ≠ "" ∧
    '.' ∉ extension.toList ∧ LetsIn lookup kind (Text.lower extension)

theorem exists_hasExtension_iff_letsInFile (h : load lookup = .ok settings) :
    (∃ extension ∈ settings.upload.extensionsFor kind, Form.HasExtension filename extension) ↔
      LetsInFile lookup kind filename := by
  constructor
  · rintro ⟨_, hmem, stem, suffix, hname, hdot, hstem, hsuffix, rfl⟩
    refine ⟨.ofList stem, .ofList suffix, ?_, ?_, ?_, by simpa using hdot,
      (mem_extensionsFor_iff_letsIn h).mp hmem⟩
    · rw [← String.toList_inj, hname]
      simp
    · simpa using hstem
    · simpa using hsuffix
  · rintro ⟨stem, extension, rfl, hstem, hextension, hdot, hlets⟩
    refine ⟨_, (mem_extensionsFor_iff_letsIn h).mpr hlets, stem.toList, extension.toList, ?_, hdot,
      ?_, ?_, by rw [String.ofList_toList]⟩
    · simp
    · simpa using hstem
    · simpa using hextension

/-- A form has no problem with the only file of a submission exactly if the variables let it in. No
form depends on the variables of the others, and to set the variable for all forms never adds a
file. -/
theorem passesFiles_iff_letsInFile (h : load lookup = .ok settings) (kind : Form.Kind)
    (filename : String) :
    (∀ databases submission, submission.filesFor kind.fileField = [filename] →
      (Form.PassesFiles settings.upload kind databases submission ↔
        LetsInFile lookup kind filename)) ∧
    (∀ other otherSettings, load other = .ok otherSettings →
      other (extensionsVariable kind) = lookup (extensionsVariable kind) →
      other "ALLOWED_EXTENSIONS" = lookup "ALLOWED_EXTENSIONS" →
      ∀ databases submission, Form.PassesFiles otherSettings.upload kind databases submission ↔
        Form.PassesFiles settings.upload kind databases submission) ∧
    ∀ other otherSettings, load other = .ok otherSettings →
      other (extensionsVariable kind) = lookup (extensionsVariable kind) →
      (∀ text, ¬ Sets other "ALLOWED_EXTENSIONS" text) →
      ∀ databases submission, Form.PassesFiles settings.upload kind databases submission →
        Form.PassesFiles otherSettings.upload kind databases submission := by
  refine ⟨fun databases submission hfiles => ?_,
    fun other otherSettings hother hown hallowed databases submission => ?_,
    fun other otherSettings hother hown hunset databases submission => ?_⟩
  · rw [Form.passesFiles_iff, hfiles, Form.takesFiles_singleton_iff,
      exists_hasExtension_iff_letsInFile h]
  · constructor
    · refine Form.PassesFiles.mono fun extension hmem => ?_
      rw [mem_extensionsFor_iff_letsIn hother] at hmem
      exact (mem_extensionsFor_iff_letsIn h).mpr (hmem.congr hown.symm hallowed.symm)
    · refine Form.PassesFiles.mono fun extension hmem => ?_
      rw [mem_extensionsFor_iff_letsIn h] at hmem
      exact (mem_extensionsFor_iff_letsIn hother).mpr (hmem.congr hown hallowed)
  · refine Form.PassesFiles.mono fun extension hmem => ?_
    rw [mem_extensionsFor_iff_letsIn h] at hmem
    exact (mem_extensionsFor_iff_letsIn hother).mpr (hmem.of_unset hown hunset)

/-- Variables that list one extension in upper case, and let in one more than all forms may. -/
def narrowed : Lookup
  | "CSV_EXTENSIONS" => some " .CSV, tsv"
  | "ALLOWED_EXTENSIONS" => some "xlsx,csv"
  | _ => none

theorem narrowed_passesFiles_iff_letsInFile :
    ∃ settings, load narrowed = .ok settings ∧
      ∀ databases submission, submission.filesFor "csv_file" = ["sales.Csv"] →
        (Form.PassesFiles settings.upload .csv databases submission ↔
          LetsInFile narrowed .csv "sales.Csv") := by
  obtain ⟨settings, hsettings⟩ : ∃ settings, load narrowed = .ok settings := ⟨_, rfl⟩
  exact ⟨settings, hsettings, (passesFiles_iff_letsInFile hsettings .csv "sales.Csv").1⟩

end Settings

end UploadGate
