import Mathlib.Data.Finset.Max
import UploadGate.Proofs.Settings.Loading
import UploadGate.Proofs.Text.Lowercase
import UploadGate.Proofs.Text.Tables

/-! # Settings in normal form

Settings are in normal form when no text in them is empty and every set of extensions is read again
from its joined elements. Two steps of the reading can undo an earlier one: slashes are dropped from
an address after the blank values are left out, and dots from an extension after the white space
around it. Where no address is made of slashes alone and no list has dots before white space, the
settings are in normal form; otherwise only what these steps uncover is missing from it.
-/

namespace UploadGate

namespace UploadSettings

variable {text extension : String} {piece : List Char} {set : NameSet}

/-! ## Extensions -/

/-- An extension has nothing that reading a list would drop, white space at its front apart. -/
structure IsCleaned (extension : String) : Prop where
  ne_empty : extension ≠ ""
  noBlankEnd : ∀ c, extension.toList.getLast? = some c → Text.isBlank c = false
  noDotFront : extension.toList.head? ≠ some '.'
  noComma : ',' ∉ extension.toList
  lower : Text.lower extension = extension

/-- An extension that reading a list would leave as it is. -/
structure IsNormal (extension : String) : Prop extends IsCleaned extension where
  trimmed : Text.trim extension = extension

/-- A piece of a list has dots before white space, which the dots keep from being dropped. -/
def SpacedDots (text : String) : Prop :=
  ∃ piece ∈ Text.split ',' text.toList, ∃ dots c rest,
    Text.strip Text.isBlank piece = dots ++ c :: rest ∧ (∀ d ∈ dots, d = '.') ∧
      Text.isBlank c = true

theorem toList_normalExtension (piece : List Char) :
    (normalExtension piece).toList =
      Text.lowerAfter [] ((Text.strip Text.isBlank piece).dropWhile (· = '.')) := by
  rw [normalExtension, Text.toList_lower, String.toList_ofList]

/-- What is read from a piece between commas is cleaned, unless it is empty. -/
theorem isCleaned_normalExtension (hcomma : ',' ∉ piece) (hne : normalExtension piece ≠ "") :
    IsCleaned (normalExtension piece) where
  ne_empty := hne
  noBlankEnd c hlast := by
    rw [Bool.eq_false_iff]
    intro hblank
    rw [toList_normalExtension] at hlast
    have hrest := Text.getLast?_of_getLast?_lowerAfter (Text.isCaseless_of_isBlank hblank) hlast
    obtain ⟨dots, hdots⟩ := List.dropWhile_suffix (l := Text.strip Text.isBlank piece) (· = '.')
    have hpiece : (Text.strip Text.isBlank piece).getLast? = some c := by
      rw [← hdots, List.getLast?_append, hrest]
      rfl
    rw [Text.getLast?_dropEndWhile hpiece] at hblank
    exact absurd hblank (by decide)
  noDotFront hhead := by
    rw [toList_normalExtension, Text.head?_lowerAfter_eq_some_iff Text.isCaseless_dot] at hhead
    exact absurd (Text.head?_dropWhile hhead) (by decide)
  noComma hmem := by
    rw [toList_normalExtension] at hmem
    have hrest := Text.mem_of_mem_lowerAfter Text.isCaseless_comma hmem
    exact hcomma (Text.mem_of_mem_strip ((List.dropWhile_suffix _).subset hrest))
  lower := Text.lower_lower _

theorem IsEntry.isCleaned (h : IsEntry text extension) : IsCleaned extension := by
  obtain ⟨hne, piece, hpiece, rfl⟩ := h
  exact isCleaned_normalExtension (Text.not_mem_of_mem_split hpiece) hne

namespace IsCleaned

theorem trim_eq_self_iff (h : IsCleaned extension) :
    Text.trim extension = extension ↔
      ∀ c, extension.toList.head? = some c → Text.isBlank c = false := by
  rw [← String.toList_inj, Text.toList_trim, Text.strip_eq_self_iff]
  exact and_iff_left h.noBlankEnd

/-- Cleaning an extension again drops nothing but white space and what it uncovers. -/
theorem normalExtension_toList (h : IsCleaned extension) :
    (normalExtension extension.toList).toList =
      (Text.strip Text.isBlank extension.toList).dropWhile (· = '.') := by
  have hsubset : (String.ofList
      ((Text.strip Text.isBlank extension.toList).dropWhile (· = '.'))).toList ⊆
      (Text.lower extension).toList := by
    rw [String.toList_ofList, h.lower]
    exact fun c hc => Text.mem_of_mem_strip ((List.dropWhile_suffix _).subset hc)
  rw [normalExtension, Text.lower_of_subset hsubset, String.toList_ofList]

theorem normalExtension_of_trimmed (h : IsCleaned extension)
    (htrimmed : Text.trim extension = extension) : normalExtension extension.toList = extension := by
  have hstrip : Text.strip Text.isBlank extension.toList = extension.toList := by
    rw [← Text.toList_trim, htrimmed]
  have hdots : extension.toList.dropWhile (· = '.') = extension.toList := by
    rw [Text.dropWhile_eq_self_iff_head?]
    intro c hc
    rw [decide_eq_false_iff_not]
    rintro rfl
    exact h.noDotFront hc
  rw [← String.toList_inj, h.normalExtension_toList, hstrip, hdots]

theorem length_normalExtension_lt (h : IsCleaned extension)
    (hspaced : Text.trim extension ≠ extension) :
    (normalExtension extension.toList).toList.length < extension.toList.length := by
  have hdots : ((Text.strip Text.isBlank extension.toList).dropWhile (· = '.')).length ≤
      (Text.strip Text.isBlank extension.toList).length := (List.dropWhile_suffix _).length_le
  have hstrip : (Text.strip Text.isBlank extension.toList).length < extension.toList.length := by
    refine Nat.lt_of_le_of_ne (Text.strip_sublist _ _).length_le fun hlength => hspaced ?_
    rw [← String.toList_inj, Text.toList_trim]
    exact (Text.strip_sublist _ _).eq_of_length hlength
  rw [h.normalExtension_toList]
  exact Nat.lt_of_le_of_lt hdots hstrip

end IsCleaned

/-! ## Lists that are read again -/

theorem mem_readExtensions_intercalate_iff (hcommas : ∀ name ∈ set, ',' ∉ name.toList) :
    extension ∈ readExtensions (",".intercalate set.toList) ↔
      extension ≠ "" ∧ ∃ name ∈ set, normalExtension name.toList = extension := by
  rw [mem_readExtensions_iff, IsEntry, String.toList_intercalate]
  refine and_congr_right fun hne => ?_
  change (∃ piece ∈ Text.split ',' ([','].intercalate (set.toList.map String.toList)),
    normalExtension piece = extension) ↔ _
  by_cases hnil : set.toList = []
  · -- The empty text is one piece, and that leaves nothing.
    have hempty : normalExtension [] ≠ extension := fun h => hne (h ▸ by decide)
    simpa [hnil, NameSet.mem_def, Text.split] using hempty
  · have hpieces : ∀ piece ∈ set.toList.map String.toList, ',' ∉ piece := by
      simpa [NameSet.mem_def] using hcommas
    have hsplit := Text.split_intercalate (by simpa using hnil) hpieces
    rw [hsplit]
    simp [NameSet.mem_def]

/-- A set of extensions is read again from its joined elements if they are trimmed, and only
then. -/
theorem readExtensions_intercalate_eq_iff (h : ∀ extension ∈ set, IsCleaned extension) :
    readExtensions (",".intercalate set.toList) = set ↔
      ∀ extension ∈ set, Text.trim extension = extension := by
  have hread : ∀ {extension}, extension ∈ readExtensions (",".intercalate set.toList) ↔
      extension ≠ "" ∧ ∃ name ∈ set, normalExtension name.toList = extension :=
    mem_readExtensions_intercalate_iff fun name hname => (h name hname).noComma
  constructor
  · intro hsame
    by_contra! hspaced
    obtain ⟨spaced, hmem, hne⟩ := hspaced
    -- The longest untrimmed element could come from nothing but a longer one.
    obtain ⟨longest, hlongest, hmax⟩ :=
      (set.toList.toFinset.filter fun name => Text.trim name ≠ name).exists_max_image
        (·.toList.length) ⟨spaced, by simpa [NameSet.mem_def] using ⟨hmem, hne⟩⟩
    rw [Finset.mem_filter, List.mem_toFinset, ← NameSet.mem_def] at hlongest
    obtain ⟨-, source, hsource, hnormal⟩ := hread.mp (hsame ▸ hlongest.1)
    by_cases htrimmed : Text.trim source = source
    · rw [(h source hsource).normalExtension_of_trimmed htrimmed] at hnormal
      exact hlongest.2 (hnormal ▸ htrimmed)
    · have hshorter := (h source hsource).length_normalExtension_lt htrimmed
      have hlonger := hmax source
        (Finset.mem_filter.mpr ⟨List.mem_toFinset.mpr hsource, htrimmed⟩)
      rw [hnormal] at hshorter
      omega
  · intro htrimmed
    have hself : ∀ name ∈ set, normalExtension name.toList = name := fun name hname =>
      (h name hname).normalExtension_of_trimmed (htrimmed name hname)
    refine NameSet.ext_mem fun extension => hread.trans ⟨?_, fun hmem => ?_⟩
    · rintro ⟨-, name, hname, rfl⟩
      rwa [hself name hname]
    · exact ⟨(h extension hmem).ne_empty, extension, hmem, hself extension hmem⟩

/-! ## White space behind dots -/

/-- What is read from a piece starts with white space if that is what the dots stand before. -/
theorem exists_head?_normalExtension_iff :
    (∃ c, (normalExtension piece).toList.head? = some c ∧ Text.isBlank c = true) ↔
      ∃ dots c rest, Text.strip Text.isBlank piece = dots ++ c :: rest ∧ (∀ d ∈ dots, d = '.') ∧
        Text.isBlank c = true := by
  rw [toList_normalExtension]
  constructor
  · rintro ⟨c, hhead, hblank⟩
    rw [Text.head?_lowerAfter_eq_some_iff (Text.isCaseless_of_isBlank hblank)] at hhead
    obtain ⟨rest, hrest⟩ := List.head?_eq_some_iff.mp hhead
    refine ⟨(Text.strip Text.isBlank piece).takeWhile (· = '.'), c, rest, ?_, ?_, hblank⟩
    · rw [← hrest, List.takeWhile_append_dropWhile]
    · exact fun d hd => by simpa using List.mem_takeWhile_imp hd
  · rintro ⟨dots, c, rest, hstrip, hdots, hblank⟩
    have hdot : c ≠ '.' := by
      rintro rfl
      exact absurd hblank (by decide)
    refine ⟨c, ?_, hblank⟩
    rw [Text.head?_lowerAfter_eq_some_iff (Text.isCaseless_of_isBlank hblank), hstrip,
      Text.dropWhile_append_of_all (by simpa using hdots),
      List.dropWhile_cons_of_neg (by simpa using hdot), List.head?_cons]

/-- An entry is untrimmed if it comes from dots before white space. -/
theorem spacedDots_iff :
    SpacedDots text ↔ ∃ extension, IsEntry text extension ∧ Text.trim extension ≠ extension := by
  constructor
  · rintro ⟨piece, hmem, hdots⟩
    obtain ⟨c, hhead, hblank⟩ := exists_head?_normalExtension_iff.mpr hdots
    have hne : normalExtension piece ≠ "" := by
      intro h
      rw [h] at hhead
      exact absurd hhead (by simp)
    have hentry : IsEntry text (normalExtension piece) := ⟨hne, piece, hmem, rfl⟩
    refine ⟨_, hentry, fun htrimmed => ?_⟩
    rw [hentry.isCleaned.trim_eq_self_iff.mp htrimmed c hhead] at hblank
    exact absurd hblank (by decide)
  · rintro ⟨_, hentry, hspaced⟩
    rw [ne_eq, hentry.isCleaned.trim_eq_self_iff] at hspaced
    push Not at hspaced
    obtain ⟨c, hhead, hblank⟩ := hspaced
    obtain ⟨hne, piece, hmem, rfl⟩ := hentry
    exact ⟨piece, hmem, exists_head?_normalExtension_iff.mp ⟨c, hhead, by simpa using hblank⟩⟩

/-- All built-in extensions are normal. -/
theorem isNormal_of_mem_ownDefault {kind : Form.Kind} (h : extension ∈ ownDefault kind) :
    IsNormal extension := by
  have hall : ∀ extension ∈ (ownDefault kind).toList, extension ≠ "" ∧
      extension.toList.head? ≠ some '.' ∧ ',' ∉ extension.toList ∧
      Text.lower extension = extension ∧ Text.trim extension = extension := by
    cases kind <;> decide +kernel
  obtain ⟨hne, hdot, hcomma, hlower, htrimmed⟩ := hall extension h
  refine ⟨⟨hne, ?_, hdot, hcomma, hlower⟩, htrimmed⟩
  rw [← String.toList_inj, Text.toList_trim, Text.strip_eq_self_iff] at htrimmed
  exact htrimmed.2

/-! ## The sets of the settings -/

/-- The sets of extensions that the settings have. -/
def sets (settings : UploadSettings) : List NameSet :=
  [settings.allowed, settings.csv, settings.excel, settings.columnar]

theorem mem_sets_iff {settings : UploadSettings} :
    set ∈ settings.sets ↔ set = settings.allowed ∨ ∃ kind, set = settings.own kind := by
  simp only [sets, List.mem_cons, List.not_mem_nil, or_false]
  refine or_congr_right ⟨?_, ?_⟩
  · rintro (rfl | rfl | rfl)
    · exact ⟨.csv, rfl⟩
    · exact ⟨.excel, rfl⟩
    · exact ⟨.columnar, rfl⟩
  · rintro ⟨kind, rfl⟩
    cases kind <;> simp [own]

end UploadSettings

/-! ## Settings -/

namespace Settings

open UploadSettings (IsCleaned IsEntry SpacedDots readExtensions)

variable {lookup : Lookup} {settings : Settings} {extension : String}

/-- No setting holds anything that reading it again would drop, and none is empty. -/
structure IsNormal (settings : Settings) : Prop where
  host : settings.host ≠ ""
  databaseUrl : settings.databaseUrl ≠ some ""
  permissionsFile : settings.permissionsFile ≠ some ""
  securityServiceUrl : settings.securityServiceUrl ≠ some ""
  extensions : ∀ set ∈ settings.upload.sets, ∀ extension ∈ set, UploadSettings.IsNormal extension
  readBack : ∀ set ∈ settings.upload.sets, readExtensions (",".intercalate set.toList) = set

/-- One of the variables for extensions is set to a text. -/
def SetsExtensions (lookup : Lookup) (text : String) : Prop :=
  Sets lookup "ALLOWED_EXTENSIONS" text ∨ ∃ kind, Sets lookup (extensionsVariable kind) text

theorem Sets.trim_ne_empty {name text : String} (h : Sets lookup name text) :
    Text.trim text ≠ "" := by
  intro hempty
  rw [← Text.blank_iff_trim_eq_empty, h.2] at hempty
  exact absurd hempty (by decide)

theorem withoutSlashes_eq_empty_iff {url : String} :
    withoutSlashes url = "" ↔ ∀ c ∈ url.toList, c = '/' := by
  rw [withoutSlashes, ← String.toList_inj, String.toList_ofList]
  change Text.dropEndWhile _ _ = [] ↔ _
  rw [Text.dropEndWhile_eq_nil_iff]
  simp

/-- A setting that takes the text of its variable is never the empty text. -/
theorem IsReadAs.ne_some_empty {key : Variable} {found : Option String}
    (h : IsReadAs lookup key (fun text found => found = some text) none found) :
    found ≠ some "" := by
  rcases h.cases with ⟨text, hset, htext⟩ | hnone
  · rw [htext, ne_eq, Option.some_inj]
    exact hset.trim_ne_empty
  · simp [hnone]

namespace IsReadFrom

theorem host_ne_empty (h : IsReadFrom lookup settings) : settings.host ≠ "" := by
  rcases h.host.cases with ⟨text, hset, htext⟩ | hdefault
  · rw [htext]
    exact hset.trim_ne_empty
  · rw [hdefault]
    decide

/-- The address of the service for permissions is empty if it was made of slashes alone. -/
theorem securityServiceUrl_eq_some_empty_iff (h : IsReadFrom lookup settings) :
    settings.securityServiceUrl = some "" ↔
      ∃ text, Sets lookup "SECURITY_SERVICE_URL" text ∧
        ∀ c ∈ (Text.trim text).toList, c = '/' := by
  simp only [← withoutSlashes_eq_empty_iff]
  constructor
  · intro hempty
    rcases h.securityServiceUrl.cases with ⟨text, hset, htext⟩ | hdefault
    · exact ⟨text, hset, Option.some.inj (htext.symm.trans hempty)⟩
    · exact absurd (hdefault.symm.trans hempty) (by simp)
  · rintro ⟨text, hset, hslashes⟩
    rw [h.securityServiceUrl.set text hset, hslashes]

/-- An element of a set of extensions is an entry of a list that a variable is set to, or one of the
built-in extensions. -/
theorem cases_of_mem_set (h : IsReadFrom lookup settings) {set : NameSet}
    (hset : set ∈ settings.upload.sets) (hmem : extension ∈ set) :
    (∃ text, SetsExtensions lookup text ∧ IsEntry text extension) ∨
      ∃ kind, extension ∈ UploadSettings.ownDefault kind := by
  have hown : ∀ kind, extension ∈ settings.upload.own kind →
      (∃ text, SetsExtensions lookup text ∧ IsEntry text extension) ∨
        ∃ kind, extension ∈ UploadSettings.ownDefault kind := by
    intro kind hmem
    rcases (h.own kind).cases with ⟨text, htext, hlists⟩ | hdefault
    · rw [name_extensions] at htext
      exact .inl ⟨text, .inr ⟨kind, htext⟩,
        UploadSettings.isEntry_trim.mp ((hlists extension).mp hmem)⟩
    · exact .inr ⟨kind, hdefault ▸ hmem⟩
  rcases UploadSettings.mem_sets_iff.mp hset with rfl | ⟨kind, rfl⟩
  · rcases h.allowed.cases with ⟨text, htext, hlists⟩ | hdefault
    · exact .inl ⟨text, .inl htext, UploadSettings.isEntry_trim.mp ((hlists extension).mp hmem)⟩
    · rw [hdefault, NameSet.mem_union, NameSet.mem_union] at hmem
      rcases hmem with (hcsv | hexcel) | hcolumnar
      · exact hown .csv hcsv
      · exact hown .excel hexcel
      · exact hown .columnar hcolumnar
  · exact hown kind hmem

theorem exists_set_of_isEntry (h : IsReadFrom lookup settings) {text : String}
    (htext : SetsExtensions lookup text) (hentry : IsEntry text extension) :
    ∃ set ∈ settings.upload.sets, extension ∈ set := by
  rcases htext with hset | ⟨kind, hset⟩
  · exact ⟨_, UploadSettings.mem_sets_iff.mpr (.inl rfl),
      (h.allowed.set text hset extension).mpr (UploadSettings.isEntry_trim.mpr hentry)⟩
  · rw [← name_extensions] at hset
    exact ⟨_, UploadSettings.mem_sets_iff.mpr (.inr ⟨kind, rfl⟩),
      ((h.own kind).set text hset extension).mpr (UploadSettings.isEntry_trim.mpr hentry)⟩

theorem isCleaned_of_mem_set (h : IsReadFrom lookup settings) {set : NameSet}
    (hset : set ∈ settings.upload.sets) (hmem : extension ∈ set) : IsCleaned extension := by
  rcases h.cases_of_mem_set hset hmem with ⟨text, -, hentry⟩ | ⟨kind, hdefault⟩
  · exact hentry.isCleaned
  · exact (UploadSettings.isNormal_of_mem_ownDefault hdefault).toIsCleaned

/-- The extensions are trimmed unless a list has dots before white space. -/
theorem forall_trimmed_iff (h : IsReadFrom lookup settings) :
    (∀ set ∈ settings.upload.sets, ∀ extension ∈ set, Text.trim extension = extension) ↔
      ∀ text, SetsExtensions lookup text → ¬ SpacedDots text := by
  constructor
  · intro htrimmed text htext hspaced
    obtain ⟨extension, hentry, hne⟩ := UploadSettings.spacedDots_iff.mp hspaced
    obtain ⟨set, hset, hmem⟩ := h.exists_set_of_isEntry htext hentry
    exact hne (htrimmed set hset extension hmem)
  · intro htexts set hset extension hmem
    rcases h.cases_of_mem_set hset hmem with ⟨text, htext, hentry⟩ | ⟨kind, hdefault⟩
    · by_contra hne
      exact htexts text htext (UploadSettings.spacedDots_iff.mpr ⟨extension, hentry, hne⟩)
    · exact (UploadSettings.isNormal_of_mem_ownDefault hdefault).trimmed

end IsReadFrom

/-- Settings are in normal form unless the address of the service for permissions is made of slashes
alone or a list of extensions has dots before white space. Whatever the variables are, an extension
has nothing else that reading would drop, and a set of trimmed extensions, but no other, is read
again from its joined elements. -/
theorem isNormal_load_iff (h : load lookup = .ok settings) :
    (settings.host ≠ "" ∧ settings.databaseUrl ≠ some "" ∧ settings.permissionsFile ≠ some "" ∧
      (settings.securityServiceUrl = some "" ↔
        ∃ text, Sets lookup "SECURITY_SERVICE_URL" text ∧
          ∀ c ∈ (Text.trim text).toList, c = '/')) ∧
    (∀ set ∈ settings.upload.sets, (∀ extension ∈ set, IsCleaned extension) ∧
      (readExtensions (",".intercalate set.toList) = set ↔
        ∀ extension ∈ set, Text.trim extension = extension)) ∧
    (settings.IsNormal ↔
      (¬ ∃ text, Sets lookup "SECURITY_SERVICE_URL" text ∧
        ∀ c ∈ (Text.trim text).toList, c = '/') ∧
      ∀ text, SetsExtensions lookup text → ¬ SpacedDots text) := by
  have hfrom := isReadFrom_of_load h
  have hcleaned : ∀ set ∈ settings.upload.sets, ∀ extension ∈ set, IsCleaned extension :=
    fun set hset extension => hfrom.isCleaned_of_mem_set hset
  have hread : ∀ set ∈ settings.upload.sets,
      (readExtensions (",".intercalate set.toList) = set ↔
        ∀ extension ∈ set, Text.trim extension = extension) := fun set hset =>
    UploadSettings.readExtensions_intercalate_eq_iff (hcleaned set hset)
  refine ⟨⟨hfrom.host_ne_empty, hfrom.databaseUrl.ne_some_empty,
    hfrom.permissionsFile.ne_some_empty, hfrom.securityServiceUrl_eq_some_empty_iff⟩,
    fun set hset => ⟨hcleaned set hset, hread set hset⟩, ?_⟩
  rw [← hfrom.securityServiceUrl_eq_some_empty_iff, ← hfrom.forall_trimmed_iff]
  constructor
  · intro hnormal
    exact ⟨hnormal.securityServiceUrl, fun set hset extension hmem =>
      (hnormal.extensions set hset extension hmem).trimmed⟩
  · rintro ⟨hurl, htrimmed⟩
    exact
      { host := hfrom.host_ne_empty
        databaseUrl := hfrom.databaseUrl.ne_some_empty
        permissionsFile := hfrom.permissionsFile.ne_some_empty
        securityServiceUrl := hurl
        extensions := fun set hset extension hmem =>
          ⟨hcleaned set hset extension hmem, htrimmed set hset extension hmem⟩
        readBack := fun set hset => (hread set hset).mpr (htrimmed set hset) }

/-- Variables with nothing but slashes in an address, and with a dot before white space. -/
def tangled : Lookup
  | "SECURITY_SERVICE_URL" => some "///"
  | "CSV_EXTENSIONS" => some ". csv"
  | _ => none

theorem exists_load_tangled : ∃ settings, load tangled = .ok settings ∧
    settings.securityServiceUrl = some "" ∧ settings.upload.csv.toList = [" csv"] := by
  obtain ⟨settings, hsettings⟩ : ∃ settings, load tangled = .ok settings := ⟨_, rfl⟩
  have htexts : (load tangled).toOption.map
      (fun settings => (settings.securityServiceUrl, settings.upload.csv.toList)) =
        some (some "", [" csv"]) := by
    decide +kernel
  rw [hsettings] at htexts
  obtain ⟨hurl, hcsv⟩ := Prod.mk.inj (Option.some.inj htexts)
  exact ⟨settings, hsettings, hurl, hcsv⟩

theorem tangled_isNormal_load_iff :
    ∃ settings, load tangled = .ok settings ∧ settings.securityServiceUrl = some "" ∧
      " csv" ∈ settings.upload.csv ∧
      readExtensions (",".intercalate settings.upload.csv.toList) ≠ settings.upload.csv := by
  obtain ⟨settings, hsettings, hurl, hcsv⟩ := exists_load_tangled
  have hmem : " csv" ∈ settings.upload.csv := by
    rw [NameSet.mem_def, hcsv]
    decide
  have hread := ((isNormal_load_iff hsettings).2.1 settings.upload.csv
    (by simp [UploadSettings.sets])).2
  refine ⟨settings, hsettings, hurl, hmem, fun hsame => ?_⟩
  exact absurd (hread.mp hsame " csv" hmem) (by decide +kernel)

/-- Settings that were read are not always in normal form. -/
theorem load_tangled_not_isNormal :
    ¬ ∀ (lookup : Lookup) (settings : Settings), load lookup = .ok settings → settings.IsNormal := by
  intro hall
  obtain ⟨settings, hsettings, -, hcsv⟩ := exists_load_tangled
  have hmem : " csv" ∈ settings.upload.csv := by
    rw [NameSet.mem_def, hcsv]
    decide
  have hnormal := (hall tangled settings hsettings).extensions settings.upload.csv
    (by simp [UploadSettings.sets]) " csv" hmem
  exact absurd hnormal.trimmed (by decide +kernel)

end Settings

end UploadGate
