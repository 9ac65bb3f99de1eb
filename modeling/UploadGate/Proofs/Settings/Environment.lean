import UploadGate.Proofs.Settings.EnvFile
import UploadGate.Proofs.Text.Trimmed

/-! # What the loading of an environment file sets

A file means the first definition of every name, and never changes a variable that is set already,
be it to an empty text. This holds for every file whose definitions all have a name and no NUL; the
loading of such a file comes to its end. Settings that are read afterwards are those of the old
environment and, behind it, the first definitions of the file.
-/

namespace UploadGate.EnvFile

variable {environment : Environment} {rest : List Definition} {content name value : String}
  {line before after : List Char}

/-! ## Lines -/

/-- A line that is no comment is cut at its first equals sign, white space around it dropped. -/
structure Parts (line before after : List Char) : Prop where
  uncommented : (Text.strip Text.isBlank line).head? ≠ some '#'
  cut : Text.strip Text.isBlank line = before ++ '=' :: after
  first : '=' ∉ before

/-- The two parts of a line that is no comment and has an equals sign. -/
def parts? (line : List Char) : Option (List Char × List Char) :=
  if (Text.strip Text.isBlank line).head? = some '#' then none
  else Text.cutFirst '=' (Text.strip Text.isBlank line)

theorem parts?_eq_some_iff : parts? line = some (before, after) ↔ Parts line before after := by
  unfold parts?
  split
  next hcomment => exact iff_of_false (by simp) fun h => h.uncommented hcomment
  next huncommented =>
    rw [Text.cutFirst_eq_some_iff]
    exact ⟨fun ⟨hcut, hfirst⟩ => ⟨huncommented, hcut, hfirst⟩, fun h => ⟨h.cut, h.first⟩⟩

/-- A line gives a name a value: the text before its first equals sign is the name, and the text
behind it, less the quotes at its ends, the value. -/
def Defines (line : List Char) (name value : String) : Prop :=
  ∃ before after, Parts line before after ∧
    .ofList (Text.strip Text.isBlank before) = name ∧
    .ofList (Text.strip (· = '\"') (Text.strip Text.isBlank after)) = value

theorem definition?_eq_some_iff :
    definition? line = some ⟨name, value⟩ ↔ Defines line name value := by
  have hparts : definition? line = (parts? line).map fun parts =>
      { name := .ofList (Text.strip Text.isBlank parts.1)
        value := .ofList (Text.strip (· = '\"') (Text.strip Text.isBlank parts.2)) } := by
    simp only [definition?, parts?]
    split <;> rfl
  simp only [hparts, Option.map_eq_some_iff, Prod.exists, parts?_eq_some_iff, Definition.mk.injEq,
    Defines]

theorem any_definition?_iff :
    (definition? line).any (·.name = name) = true ↔ ∃ value, Defines line name value := by
  simp only [Option.any_eq_true, decide_eq_true_eq, ← definition?_eq_some_iff]
  constructor
  · rintro ⟨⟨_, value⟩, hdefinition, rfl⟩
    exact ⟨value, hdefinition⟩
  · rintro ⟨value, hdefinition⟩
    exact ⟨_, hdefinition, rfl⟩

/-! ## First definitions -/

/-- The value is that of the first line of a file that defines the name. -/
def FirstDefines (content name value : String) : Prop :=
  ∃ front line back, Text.split '\n' content.toList = front ++ line :: back ∧
    Defines line name value ∧ ∀ earlier ∈ front, ∀ other, ¬ Defines earlier name other

/-- The value that the first definition of a name gives it. -/
def firstValue? (definitions : List Definition) (name : String) : Option String :=
  (definitions.find? (·.name = name)).map Definition.value

theorem firstValue?_definitions_eq_some_iff :
    firstValue? (definitions content) name = some value ↔ FirstDefines content name value := by
  simp only [firstValue?, definitions, List.find?_filterMap, Option.map_eq_some_iff,
    Option.bind_eq_some_iff, List.find?_eq_some_iff_append, Bool.not_eq_true', any_definition?_iff,
    ← Bool.not_eq_true, not_exists]
  constructor
  · rintro ⟨⟨found, value⟩, ⟨line, ⟨⟨_, hdefines⟩, front, back, hsplit, hfront⟩, hdefinition⟩, rfl⟩
    have hsame := hdefinition.symm.trans (definition?_eq_some_iff.mpr hdefines)
    cases hsame
    exact ⟨front, line, back, hsplit, hdefines, hfront⟩
  · rintro ⟨front, line, back, hsplit, hdefines, hfront⟩
    exact ⟨⟨name, value⟩, ⟨line, ⟨⟨value, hdefines⟩, front, back, hsplit, hfront⟩,
      definition?_eq_some_iff.mpr hdefines⟩, rfl⟩

/-! ## Carrying out definitions -/

theorem firstValue?_cons {first : Definition} :
    firstValue? (first :: rest) name =
      if name = first.name then some first.value else firstValue? rest name := by
  by_cases h : first.name = name
  · simp [firstValue?, h]
  · simp [firstValue?, h, Ne.symm h]

/-- A definition for a variable that is set makes no difference. -/
theorem or_firstValue?_cons_of_set {first : Definition}
    (hset : (environment.get? first.name).isSome = true) :
    (environment.get? name).or (firstValue? (first :: rest) name) =
      (environment.get? name).or (firstValue? rest name) := by
  obtain ⟨old, hold⟩ := Option.isSome_iff_exists.mp hset
  rw [firstValue?_cons]
  split
  next hname => rw [hname, hold, Option.some_or, Option.some_or]
  next => rfl

/-- A definition for another variable comes before the later ones. -/
theorem or_firstValue?_cons_of_unset {first : Definition}
    (hunset : environment.get? first.name = none) :
    (environment.get? name).or (firstValue? (first :: rest) name) =
      ((environment.insert first.name first.value).get? name).or (firstValue? rest name) := by
  rw [firstValue?_cons, NameTable.get?_insert]
  split
  next hname => rw [hname, hunset, Option.none_or, Option.some_or]
  next => rfl

/-- After all definitions have been carried out, the variables are those of the environment and,
behind it, the first definitions. -/
theorem get?_apply (h : (apply environment rest).stopped = false) :
    (apply environment rest).environment.get? name =
      (environment.get? name).or (firstValue? rest name) := by
  induction rest generalizing environment with
  | nil => simp [apply, firstValue?]
  | cons first later ih =>
    rw [apply] at h ⊢
    split at h
    next hset => rw [if_pos hset, ih h, or_firstValue?_cons_of_set hset]
    next hunset =>
      rw [if_neg hunset]
      split at h
      next hsettable =>
        rw [if_pos hsettable, ih h, or_firstValue?_cons_of_unset (by simpa using hunset)]
      next => exact absurd h (by simp)

theorem stopped_apply_of_settable (h : ∀ definition ∈ rest, definition.settable = true) :
    (apply environment rest).stopped = false := by
  rw [Bool.eq_false_iff, Ne, stopped_apply_iff]
  rintro ⟨front, definition, back, rfl, hblocked⟩
  have hsettable := h definition (by simp)
  rw [settable_eq_false_iff.mpr hblocked.unusable] at hsettable
  exact absurd hsettable (by simp)

/-! ## Files -/

/-- Every line of a file that is no comment and has an equals sign has a text before it, and no
NUL. -/
def IsUsable (content : String) : Prop :=
  ∀ line ∈ Text.split '\n' content.toList, ∀ before after, Parts line before after →
    before.all Text.isBlank = false ∧ '\x00' ∉ line

theorem isUsable_iff :
    IsUsable content ↔ ∀ line ∈ Text.split '\n' content.toList, ∀ parts ∈ parts? line,
      parts.1.all Text.isBlank = false ∧ '\x00' ∉ line := by
  simp only [IsUsable, ← parts?_eq_some_iff, Option.mem_def, Prod.forall]

instance : Decidable (IsUsable content) := decidable_of_iff _ isUsable_iff.symm

theorem settable_of_isUsable {definition : Definition} (h : IsUsable content)
    (hmem : definition ∈ definitions content) : definition.settable = true := by
  obtain ⟨line, hline, hdefinition⟩ := List.mem_filterMap.mp hmem
  obtain ⟨before, after, hparts, hname, hvalue⟩ := definition?_eq_some_iff.mp hdefinition
  obtain ⟨hbefore, hnul⟩ := h line hline before after hparts
  have hkept : ∀ c, c ∈ before ++ '=' :: after → c ∈ line := fun c hc =>
    Text.mem_of_mem_strip (hparts.cut ▸ hc)
  rw [← Bool.not_eq_false, settable_eq_false_iff, ← hname, ← hvalue]
  rintro (hempty | hinName | hinValue)
  · have hblank : Text.strip Text.isBlank before = [] := by simpa using hempty
    rw [Text.strip_eq_nil_iff, hbefore] at hblank
    exact absurd hblank (by simp)
  · rw [String.toList_ofList] at hinName
    exact hnul (hkept _ (by simp [Text.mem_of_mem_strip hinName]))
  · rw [String.toList_ofList] at hinValue
    exact hnul (hkept _ (by simp [Text.mem_of_mem_strip (Text.mem_of_mem_strip hinValue)]))

/-- Loading a usable file comes to its end. It leaves the variables that are set as they are, sets
every other one for which the file has a definition as the first such says, and no more. Settings
that are read afterwards are those of the environment and, behind it, the first definitions. -/
theorem load_sets_first_definitions (environment : Environment) (content : String)
    (h : IsUsable content) :
    ∃ loaded, load environment (some content) = ⟨loaded, false⟩ ∧
      (∀ name value, loaded.get? name = some value ↔
        environment.get? name = some value ∨
          environment.get? name = none ∧ FirstDefines content name value) ∧
      Settings.load loaded.get? = Settings.load fun name =>
        (environment.get? name).or (firstValue? (definitions content) name) := by
  have hstopped : (apply environment (definitions content)).stopped = false :=
    stopped_apply_of_settable fun _ => settable_of_isUsable h
  refine ⟨(apply environment (definitions content)).environment, ?_, fun name value => ?_, ?_⟩
  · rw [← hstopped]
    rfl
  · rw [get?_apply hstopped, Option.or_eq_some_iff, firstValue?_definitions_eq_some_iff]
  · congr 1
    funext name
    exact get?_apply hstopped

/-- A file with a comment, two definitions of one name, a line that defines nothing, a value with an
equals sign, and a definition of what is set already. -/
def sample : String :=
  "# SERVER_PORT=1\nSERVER_PORT = \"9000\"\r\n\nSERVER_PORT=9001\n" ++
    "export\nDATABASE_URL=a=b\nSERVER_HOST=::\n"

/-- An environment in which the host is empty. -/
def preset : Environment := (∅ : Environment).insert "SERVER_HOST" ""

theorem sample_sets_first_definitions :
    IsUsable sample ∧
      ∃ loaded, load preset (some sample) = ⟨loaded, false⟩ ∧
        (∀ name value, loaded.get? name = some value ↔
          preset.get? name = some value ∨
            preset.get? name = none ∧ FirstDefines sample name value) ∧
        Settings.load loaded.get? = Settings.load fun name =>
          (preset.get? name).or (firstValue? (definitions sample) name) := by
  have husable : IsUsable sample := by decide +kernel
  exact ⟨husable, load_sets_first_definitions preset sample husable⟩

example : (load preset (some sample)).environment.entries =
    [("DATABASE_URL", "a=b"), ("SERVER_HOST", ""), ("SERVER_PORT", "9000")] := by
  decide +kernel

end UploadGate.EnvFile
