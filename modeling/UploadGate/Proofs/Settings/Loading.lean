import UploadGate.Deployment
import UploadGate.Proofs.Settings.Extensions

/-! # Variables that can be read

A variable counts as set if its value is not blank, and then stands for what its text says without
the white space around it. Three variables must be numerals of numbers up to a bound, and one a JSON
list of strings; the others may be any text. Loading fails exactly if one of the four is set to
another text, with the error of the first such one in the order in which they are read. Otherwise
every setting is what its variable stands for, or the default. White space around values and
variables with blank values make no difference.
-/

namespace UploadGate

namespace Settings

variable {α β : Type} {lookup other : Lookup} {settings : Settings} {key : Variable}
  {keys later : List Variable} {text detail : String} {names : List String}
  {bound default n : Nat} {error : ServiceError}

/-! ## What a variable stands for -/

/-- A text is a numeral of a number up to a bound. -/
def IsNumber (bound : Nat) (text : String) (n : Nat) : Prop :=
  Numeral.DenotesUnsigned text.toList n ∧ n ≤ bound

/-- A text is JSON, and its value is an array of the names. -/
def IsNameList (text : String) (names : List String) : Prop :=
  Json.Value.ofText? text = some (.strings names)

/-- A text lists the extensions of a set. -/
def ListsExtensions (text : String) (extensions : NameSet) : Prop :=
  ∀ extension, extension ∈ extensions ↔ UploadSettings.IsEntry text extension

/-- A setting is what the text of a variable stands for, or the default if the variable is not
set. -/
structure IsReadAs (lookup : Lookup) (key : Variable) (standsFor : String → α → Prop)
    (default found : α) : Prop where
  set : ∀ text, Sets lookup key.name text → standsFor (Text.trim text) found
  unset : (∀ text, ¬ Sets lookup key.name text) → found = default

section IsReadAs

variable {standsFor : String → α → Prop} {missing found : α}

theorem isReadAs_iff_get :
    IsReadAs lookup key standsFor missing found ↔
      (∀ text, get lookup key = some text → standsFor text found) ∧
        (get lookup key = none → found = missing) := by
  rw [forall_get_iff, get_eq_none_iff]
  exact ⟨fun h => ⟨h.set, h.unset⟩, fun h => ⟨h.1, h.2⟩⟩

theorem isReadAs_iff_of_get_some (h : get lookup key = some text) :
    IsReadAs lookup key standsFor missing found ↔ standsFor text found := by
  simp [isReadAs_iff_get, h]

theorem isReadAs_iff_of_get_none (h : get lookup key = none) :
    IsReadAs lookup key standsFor missing found ↔ found = missing := by
  simp [isReadAs_iff_get, h]

/-- To read every text as something that it stands for is to read the variable. -/
theorem isReadAs_elim {read : String → α} (h : ∀ text, standsFor text (read text))
    (hfound : found = (get lookup key).elim missing read) :
    IsReadAs lookup key standsFor missing found := by
  subst hfound
  cases hget : get lookup key with
  | none => exact (isReadAs_iff_of_get_none hget).mpr rfl
  | some text => exact (isReadAs_iff_of_get_some hget).mpr (h text)

theorem IsReadAs.cases (h : IsReadAs lookup key standsFor missing found) :
    (∃ text, Sets lookup key.name text ∧ standsFor (Text.trim text) found) ∨ found = missing := by
  by_cases hset : ∃ text, Sets lookup key.name text
  · obtain ⟨text, hset⟩ := hset
    exact .inl ⟨text, hset, h.set text hset⟩
  · exact .inr (h.unset (not_exists.mp hset))

end IsReadAs

/-! ## Reading one variable -/

/-- Read a variable as what its text stands for, where a text that stands for nothing is a fault. -/
def readOr (lookup : Lookup) (key : Variable) (read : String → Option α) (fault : String → Fault)
    (missing : α) : Except Fault α :=
  match get lookup key with
  | none => .ok missing
  | some text =>
    match read text with
    | some found => .ok found
    | none => .error (fault text)

/-- An outcome is a fault that is reported as the error, with what a library says of a text that it
cannot read. -/
def Fails (detail : String) (outcome : Except Fault α) (error : ServiceError) : Prop :=
  ∃ fault, outcome = .error fault ∧
    (Deployment.Fault.settings fault).toError? detail = some error

theorem not_fails_ok {found : α} : ¬ Fails detail (.ok found) error := fun ⟨_, h, _⟩ => nomatch h

theorem fails_error_iff {fault : Fault} :
    Fails detail (.error fault : Except Fault α) error ↔
      .configuration (fault.message detail) = error := by
  simp [Fails, Deployment.Fault.toError?]

section ReadOr

variable {read : String → Option α} {standsFor : String → α → Prop} {fault : String → Fault}
  {missing found : α}

theorem readOr_eq_ok_iff (hread : ∀ text found, read text = some found ↔ standsFor text found) :
    readOr lookup key read fault missing = .ok found ↔
      IsReadAs lookup key standsFor missing found := by
  unfold readOr
  cases hget : get lookup key with
  | none => simp [isReadAs_iff_of_get_none hget, eq_comm]
  | some text =>
    rw [isReadAs_iff_of_get_some hget, ← hread]
    cases htext : read text <;> simp [htext]

/-- To read a variable fails exactly if it is set to a text that stands for nothing. -/
theorem fails_readOr_iff (hread : ∀ text found, read text = some found ↔ standsFor text found) :
    Fails detail (readOr lookup key read fault missing) error ↔
      ∃ text, Sets lookup key.name text ∧ (∀ found, ¬ standsFor (Text.trim text) found) ∧
        .configuration ((fault (Text.trim text)).message detail) = error := by
  rw [← exists_get_iff (p := fun text => (∀ found, ¬ standsFor text found) ∧
    .configuration ((fault text).message detail) = error), readOr]
  simp only [← hread, ← Option.eq_none_iff_forall_ne_some]
  cases get lookup key with
  | none => simp [not_fails_ok]
  | some text =>
    cases htext : read text with
    | none => simp [htext, fails_error_iff]
    | some found => simp [htext, not_fails_ok]

end ReadOr

theorem number_eq_readOr :
    number lookup key bound default =
      readOr lookup key (fun text => Numeral.unsigned? bound text.toList) (.notNumber key)
        default := by
  unfold number readOr
  cases get lookup key with
  | none => rfl
  | some text => dsimp only; cases Numeral.unsigned? bound text.toList <;> rfl

theorem nullNames_eq_readOr :
    nullNames lookup = readOr lookup .nullNames UploadSettings.readNullNames?
      (fun _ => .notNullNames) UploadSettings.defaultNullNames := by
  unfold nullNames readOr
  cases get lookup .nullNames with
  | none => rfl
  | some text => dsimp only; cases UploadSettings.readNullNames? text <;> rfl

theorem isNumber_iff (text : String) (n : Nat) :
    Numeral.unsigned? bound text.toList = some n ↔ IsNumber bound text n :=
  Numeral.unsigned?_eq_some_iff

theorem isNameList_iff (text : String) (names : List String) :
    UploadSettings.readNullNames? text = some names ↔ IsNameList text names := by
  rw [UploadSettings.readNullNames?, Json.toOption_eq_some_iff, Json.decode_list_string_eq_ok_iff,
    IsNameList]

theorem number_eq_ok_iff :
    number lookup key bound default = .ok n ↔ IsReadAs lookup key (IsNumber bound) default n := by
  rw [number_eq_readOr, readOr_eq_ok_iff isNumber_iff]

theorem nullNames_eq_ok_iff :
    nullNames lookup = .ok names ↔
      IsReadAs lookup .nullNames IsNameList UploadSettings.defaultNullNames names := by
  rw [nullNames_eq_readOr, readOr_eq_ok_iff isNameList_iff]

/-! ## Variables that cannot be read -/

/-- The largest number that a variable can be set to, if it must be set to one: the largest of 16,
32 or 64 bits. -/
def greatest? : Variable → Option Nat
  | .port => some 65535
  | .maxConnections => some 4294967295
  | .connectTimeout => some 18446744073709551615
  | _ => none

/-- A variable is set to a text that stands for nothing, and the error says so. Of a text that is no
list of names it also has what a library says. -/
inductive Refuses (lookup : Lookup) (detail : String) : Variable → ServiceError → Prop
  | number {key : Variable} {bound : Nat} {text : String} (hbound : greatest? key = some bound)
      (hset : Sets lookup key.name text) (hbad : ∀ n, ¬ IsNumber bound (Text.trim text) n) :
    Refuses lookup detail key
      (.configuration (key.name ++ " has an invalid value: " ++ Text.trim text))
  | nullNames {text : String} (hset : Sets lookup Variable.nullNames.name text)
      (hbad : ∀ names, ¬ IsNameList (Text.trim text) names) :
    Refuses lookup detail .nullNames
      (.configuration ("CSV_DEFAULT_NA_NAMES must be a JSON list of strings: " ++ detail))

/-- The error is about the first of some variables that is refused. -/
inductive FirstRefused (lookup : Lookup) (detail : String) :
    List Variable → ServiceError → Prop
  | here {key : Variable} {later : List Variable} {error : ServiceError}
      (h : Refuses lookup detail key error) : FirstRefused lookup detail (key :: later) error
  | later {key : Variable} {later : List Variable} {error : ServiceError}
      (hkey : ∀ error, ¬ Refuses lookup detail key error)
      (h : FirstRefused lookup detail later error) :
    FirstRefused lookup detail (key :: later) error

theorem firstRefused_cons_iff :
    FirstRefused lookup detail (key :: later) error ↔
      Refuses lookup detail key error ∨
        (∀ error, ¬ Refuses lookup detail key error) ∧ FirstRefused lookup detail later error := by
  constructor
  · intro h
    cases h with
    | here h => exact Or.inl h
    | later hkey h => exact Or.inr ⟨hkey, h⟩
  · rintro (h | ⟨hkey, h⟩)
    · exact .here h
    · exact .later hkey h

/-- If any variable is refused, then one of them is the first. -/
theorem exists_firstRefused_iff :
    (∃ error, FirstRefused lookup detail keys error) ↔
      ∃ key ∈ keys, ∃ error, Refuses lookup detail key error := by
  induction keys with
  | nil =>
    constructor
    · rintro ⟨_, ⟨⟩⟩
    · rintro ⟨_, ⟨⟩, _⟩
  | cons key later ih =>
    simp only [firstRefused_cons_iff, exists_or, exists_and_left, ih, List.exists_mem_cons_iff]
    by_cases hkey : ∃ error, Refuses lookup detail key error
    · simp [hkey]
    · simp [not_exists.mp hkey]

theorem fails_number_iff (hbound : greatest? key = some bound) :
    Fails detail (number lookup key bound default) error ↔ Refuses lookup detail key error := by
  rw [number_eq_readOr, fails_readOr_iff isNumber_iff]
  constructor
  · rintro ⟨text, hset, hbad, rfl⟩
    exact .number hbound hset hbad
  · intro h
    cases h with
    | number hbound' hset hbad =>
      obtain rfl := Option.some.inj (hbound.symm.trans hbound')
      exact ⟨_, hset, hbad, rfl⟩
    | nullNames => exact absurd hbound (by simp [greatest?])

theorem fails_nullNames_iff :
    Fails detail (nullNames lookup) error ↔ Refuses lookup detail .nullNames error := by
  rw [nullNames_eq_readOr, fails_readOr_iff isNameList_iff]
  constructor
  · rintro ⟨text, hset, hbad, rfl⟩
    exact .nullNames hset hbad
  · intro h
    cases h with
    | number hbound => exact absurd hbound (by simp [greatest?])
    | nullNames hset hbad => exact ⟨_, hset, hbad, rfl⟩

/-- To read one more variable first adds it in front of those that can be refused. -/
theorem fails_bind_iff {outcome : Except Fault α} {next : α → Except Fault β}
    (hkey : ∀ error, Fails detail outcome error ↔ Refuses lookup detail key error)
    (hlater : ∀ found, Fails detail (next found) error ↔ FirstRefused lookup detail later error) :
    Fails detail (outcome >>= next) error ↔ FirstRefused lookup detail (key :: later) error := by
  rw [firstRefused_cons_iff]
  cases outcome with
  | error fault =>
    have hrefused : Refuses lookup detail key (.configuration (fault.message detail)) :=
      (hkey _).mp (fails_error_iff.mpr rfl)
    have hbind : Fails detail ((.error fault : Except Fault α) >>= next) error ↔
        Refuses lookup detail key error := by
      rw [← hkey, fails_error_iff]
      exact fails_error_iff
    rw [hbind]
    exact ⟨Or.inl, fun h => h.elim id fun ⟨hnone, _⟩ => absurd hrefused (hnone _)⟩
  | ok found =>
    have hnone : ∀ error, ¬ Refuses lookup detail key error := fun error h =>
      not_fails_ok ((hkey error).mpr h)
    have hbind : Fails detail ((.ok found : Except Fault α) >>= next) error ↔
        FirstRefused lookup detail later error := hlater found
    rw [hbind]
    exact ⟨fun h => Or.inr ⟨hnone, h⟩, fun h => h.elim (fun h => absurd h (hnone error)) And.right⟩

/-- The variables that can be refused, in the order in which they are read. -/
def readingOrder : List Variable := [.port, .maxConnections, .connectTimeout, .nullNames]

theorem fails_load_iff :
    Fails detail (load lookup) error ↔ FirstRefused lookup detail readingOrder error := by
  unfold load
  refine fails_bind_iff (fun _ => fails_number_iff rfl) fun port => ?_
  refine fails_bind_iff (fun _ => fails_number_iff rfl) fun maxConnections => ?_
  refine fails_bind_iff (fun _ => fails_number_iff rfl) fun connectTimeout => ?_
  refine fails_bind_iff (fun _ => fails_nullNames_iff) fun names => ?_
  exact iff_of_false not_fails_ok fun h => nomatch h

/-! ## Settings that are read -/

/-- The settings are what the variables stand for. -/
structure IsReadFrom (lookup : Lookup) (settings : Settings) : Prop where
  host : IsReadAs lookup .host (fun text host => host = text) "0.0.0.0" settings.host
  port : IsReadAs lookup .port (IsNumber 65535) 8082 settings.port
  databaseUrl :
    IsReadAs lookup .databaseUrl (fun text url => url = some text) none settings.databaseUrl
  maxConnections :
    IsReadAs lookup .maxConnections (IsNumber 4294967295) 5 settings.maxConnections
  connectTimeout :
    IsReadAs lookup .connectTimeout (IsNumber 18446744073709551615) 10 settings.connectTimeout
  permissionsFile :
    IsReadAs lookup .permissionsFile (fun text path => path = some text) none
      settings.permissionsFile
  securityServiceUrl :
    IsReadAs lookup .securityServiceUrl (fun text url => url = some (withoutSlashes text)) none
      settings.securityServiceUrl
  own : ∀ kind, IsReadAs lookup (.extensions kind) ListsExtensions
    (UploadSettings.ownDefault kind) (settings.upload.own kind)
  allowed : IsReadAs lookup .allowedExtensions ListsExtensions
    (settings.upload.csv ∪ settings.upload.excel ∪ settings.upload.columnar)
    settings.upload.allowed
  nullNames : IsReadAs lookup .nullNames IsNameList UploadSettings.defaultNullNames
    settings.upload.nullNames

theorem isReadFrom_of_load (h : load lookup = .ok settings) : IsReadFrom lookup settings := by
  obtain ⟨port, maxConnections, connectTimeout, names, hport, hconnections, htimeout, hnames,
    rfl⟩ := load_eq_ok_iff.mp h
  have hlists : ∀ text, ListsExtensions text (UploadSettings.readExtensions text) :=
    fun text extension => UploadSettings.mem_readExtensions_iff
  exact
    { host := isReadAs_elim (fun _ => rfl) (by cases get lookup .host <;> rfl)
      port := number_eq_ok_iff.mp hport
      databaseUrl := isReadAs_elim (fun _ => rfl) (by cases get lookup .databaseUrl <;> rfl)
      maxConnections := number_eq_ok_iff.mp hconnections
      connectTimeout := number_eq_ok_iff.mp htimeout
      permissionsFile := isReadAs_elim (fun _ => rfl) (by cases get lookup .permissionsFile <;> rfl)
      securityServiceUrl :=
        isReadAs_elim (fun _ => rfl) (by cases get lookup .securityServiceUrl <;> rfl)
      own := fun kind => isReadAs_elim hlists UploadSettings.own_ofTexts
      allowed := isReadAs_elim hlists rfl
      nullNames := nullNames_eq_ok_iff.mp hnames }

/-! ## White space and blank values -/

/-- The value of a variable is put between white space, or is blank and taken away, or stays. -/
inductive Respells : Option String → Option String → Prop
  | same {value : Option String} : Respells value value
  | padded {front text back : String} (hfront : Text.blank front = true)
      (hback : Text.blank back = true) : Respells (some text) (some (front ++ text ++ back))
  | removed {text : String} (hblank : Text.blank text = true) : Respells (some text) none

theorem get_of_respells (h : Respells (lookup key.name) (other key.name)) :
    get other key = get lookup key := by
  unfold get
  generalize lookup key.name = value at h
  generalize other key.name = respelled at h
  cases h with
  | same => rfl
  | padded hfront hback => simp only [Option.map_some, Text.trim_append hfront hback]
  | removed hblank => rw [Option.map_some, Text.blank_iff_trim_eq_empty.mp hblank]; rfl

theorem load_congr (h : ∀ key, get other key = get lookup key) : load other = load lookup := by
  simp only [load, number, nullNames, h]

/-! ## Loading -/

/-- Loading fails exactly with the error of the first variable that is refused. If none is, then it
reads every setting from its variable. White space around values and blank values make no
difference. -/
theorem load_reads_or_reports_first_refused (lookup : Lookup) (detail : String) :
    (∀ error, Fails detail (load lookup) error ↔ FirstRefused lookup detail readingOrder error) ∧
    ((∀ key ∈ readingOrder, ∀ error, ¬ Refuses lookup detail key error) →
      ∃ settings, load lookup = .ok settings ∧ IsReadFrom lookup settings) ∧
    ∀ other, (∀ name, Respells (lookup name) (other name)) → load other = load lookup := by
  refine ⟨fun error => fails_load_iff, fun hnone => ?_, fun other h => ?_⟩
  · cases hload : load lookup with
    | ok settings => exact ⟨settings, rfl, isReadFrom_of_load hload⟩
    | error fault =>
      have hfails : Fails detail (load lookup) (.configuration (fault.message detail)) := by
        rw [hload, fails_error_iff]
      obtain ⟨key, hkey, error, hrefused⟩ :=
        exists_firstRefused_iff.mp ⟨_, fails_load_iff.mp hfails⟩
      exact absurd hrefused (hnone key hkey error)
  · exact load_congr fun key => get_of_respells (h key.name)

/-- Variables with a port behind a sign and zeros, a blank timeout and null names in JSON. -/
def zeroFilled : Lookup
  | "SERVER_PORT" => some "+0080"
  | "DB_CONNECT_TIMEOUT_SECS" => some " \t"
  | "CSV_DEFAULT_NA_NAMES" => some "[\"-\"]"
  | _ => none

/-- The same with white space around the port and without the timeout. -/
def spacedOut : Lookup
  | "SERVER_PORT" => some " +0080\n"
  | "CSV_DEFAULT_NA_NAMES" => some "[\"-\"]"
  | _ => none

theorem zeroFilled_load :
    (∃ settings, load zeroFilled = .ok settings ∧ IsReadFrom zeroFilled settings) ∧
      load spacedOut = load zeroFilled := by
  obtain ⟨hfails, hreads, hrespelled⟩ :=
    load_reads_or_reports_first_refused zeroFilled "expected value at line 1 column 1"
  obtain ⟨found, hfound⟩ : ∃ settings, load zeroFilled = .ok settings := ⟨_, rfl⟩
  constructor
  · apply hreads
    intro key hkey error hrefused
    obtain ⟨first, hfirst⟩ := exists_firstRefused_iff.mpr ⟨key, hkey, error, hrefused⟩
    obtain ⟨fault, hfault, -⟩ := (hfails first).mpr hfirst
    exact absurd (hfound.symm.trans hfault) (by simp)
  · apply hrespelled
    intro name
    unfold zeroFilled spacedOut
    split
    next =>
      have hpadded : Respells (some "+0080") (some (" " ++ "+0080" ++ "\n")) :=
        .padded (by decide) (by decide)
      exact hpadded
    next => exact .removed (by decide)
    next => exact .same
    next =>
      simp only
      exact .same

/-- Variables of which two stand for nothing. -/
def oversized : Lookup
  | "DB_MAX_CONNECTIONS" => some "4294967296"
  | "CSV_DEFAULT_NA_NAMES" => some "[1]"
  | _ => none

example : load oversized = .error (.notNumber .maxConnections "4294967296") := rfl

end Settings

end UploadGate
