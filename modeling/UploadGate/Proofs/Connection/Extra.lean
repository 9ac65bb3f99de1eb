import Mathlib.Tactic.Push
import UploadGate.Proofs.Eligibility
import UploadGate.Proofs.Json.Reading
import UploadGate.Proofs.Registry

/-! # What an extra document restricts uploads to

An extra document restricts uploads exactly if it is an object that names the restriction once and
gives it a list of texts; whatever else it holds under other names makes no difference. The schemas
are the texts of the list without the white space around them, and without the blank ones. Every
other text, be it JSON or not, restricts nothing; nor does an object in which half of a surrogate
pair stands in the place of a name, even beside the restriction.
-/

namespace UploadGate

namespace Json

variable {scan : Scan} {cs : List Char} {c : Char} {text : String}

/-- A text holds a value of JSON, with any white space around it. -/
def Holds (text : String) (scan : Scan) : Prop :=
  ∃ front core back, text = front ++ core ++ back ∧ Text.blank front = true ∧
    Text.blank back = true ∧ Spells (.value scan) core.toList

/-! ## The ends of a value -/

theorem getLast?_append_run {front digits : List Char} (h : Numeral.IsRun digits)
    (hc : (front ++ digits).getLast? = some c) : c.isDigit = true := by
  rw [List.getLast?_append_of_ne_nil _ h.1] at hc
  exact h.2 c (List.mem_of_getLast? hc)

/-- A numeral ends with a digit. -/
theorem SpellsNumeral.isDigit_of_getLast? {numeral : Numeral} (h : SpellsNumeral numeral cs)
    (hc : cs.getLast? = some c) : c.isDigit = true := by
  induction h with
  | @unsigned whole fs es _ _ hwhole hfraction hexponent =>
    rw [← List.append_assoc] at hc
    cases hexponent with
    | none =>
      rw [List.append_nil] at hc
      cases hfraction with
      | none =>
        rw [List.append_nil] at hc
        exact hwhole.isRun.2 c (List.mem_of_getLast? hc)
      | digits hrun =>
        rw [List.append_cons] at hc
        exact getLast?_append_run hrun hc
    | digits _ hrun =>
      rw [List.append_cons] at hc
      exact getLast?_append_run hrun hc
    | plus _ hrun =>
      rw [List.append_cons, List.append_cons] at hc
      exact getLast?_append_run hrun hc
    | minus _ hrun =>
      rw [List.append_cons, List.append_cons] at hc
      exact getLast?_append_run hrun hc
  | @minus whole cs _ _ h ih =>
    obtain ⟨first, later, rfl, -⟩ := h.exists_cons
    exact ih (by simpa using hc)

/-- White space around a value does not belong to it. -/
theorem Spells.strip_eq_self (h : Spells (.value scan) cs) : Text.strip Text.isBlank cs = cs := by
  -- What opens and what closes an array, an object or a string is no white space.
  have hclosed : ∀ {opening closing : Char} {inner : List Char},
      Text.isBlank opening = false → Text.isBlank closing = false →
      Text.strip Text.isBlank (opening :: (inner ++ [closing])) =
        opening :: (inner ++ [closing]) := by
    intro opening closing inner hopening hclosing
    refine Text.strip_eq_self_iff.mpr ⟨fun c hc => ?_, fun c hc => ?_⟩
    · rwa [← Option.some.inj hc]
    · rw [← List.cons_append, List.getLast?_concat] at hc
      rwa [← Option.some.inj hc]
  cases h with
  | nullWord => rfl
  | trueWord => rfl
  | falseWord => rfl
  | number h =>
    refine Text.strip_eq_self_iff.mpr ⟨fun c hc => ?_, fun c hc => ?_⟩
    · obtain ⟨first, later, rfl, hfirst⟩ := h.exists_cons
      obtain rfl := Option.some.inj hc
      rcases hfirst with rfl | hdigit
      · rfl
      · exact Numeral.isBlank_of_isDigit hdigit
    · exact Numeral.isBlank_of_isDigit (h.isDigit_of_getLast? hc)
  | string h =>
    cases h
    exact hclosed rfl rfl
  | emptyArray => exact hclosed rfl rfl
  | array => exact hclosed rfl rfl
  | emptyObject => exact hclosed rfl rfl
  | object => exact hclosed rfl rfl

theorem Spells.trim_eq_self (h : Spells (.value scan) text.toList) : Text.trim text = text := by
  rw [Text.trim, h.strip_eq_self, String.ofList_toList]

theorem blank_of_isSpacing (h : IsSpacing cs) : Text.blank (.ofList cs) = true := by
  have hall : [' ', '\t', '\n', '\r'].all Text.isBlank = true := by decide
  rw [Text.blank, String.toList_ofList, List.all_eq_true]
  exact fun c hc => List.all_eq_true.mp hall c (h c hc)

theorem holds_iff : Holds text scan ↔ Spells (.element scan) (Text.trim text).toList := by
  constructor
  · rintro ⟨front, core, back, rfl, hfront, hback, hcore⟩
    rw [Text.trim_append hfront hback, hcore.trim_eq_self]
    exact hcore.element_self
  · intro h
    obtain ⟨front, back, htext, hfront, hback⟩ := Text.exists_append_trim text
    generalize hcs : (Text.trim text).toList = cs at h
    cases h with
    | @element _ before core after hbefore hcore hafter =>
      have htrim : Text.trim text = .ofList before ++ .ofList core ++ .ofList after := by
        rw [← String.toList_inj, hcs]
        simp
      refine ⟨front ++ .ofList before, .ofList core, .ofList after ++ back, ?_, ?_, ?_, ?_⟩
      · rw [htext, htrim]
        simp only [String.append_assoc]
      · rw [Text.blank_append, hfront, blank_of_isSpacing hbefore]
        rfl
      · rw [Text.blank_append, hback, blank_of_isSpacing hafter]
        rfl
      · rwa [String.toList_ofList]

theorem holds_text {value : Value} (h : ReadsBack value scan) : Holds value.text scan := by
  refine ⟨"", value.text, "", by simp, rfl, rfl, ?_⟩
  rwa [Value.text, String.toList_ofList]

end Json

namespace Connection

open Json (Holds Scan)

/-- The name of the restriction in an extra document. -/
def restrictionName : String := "schemas_allowed_for_file_upload"

/-- A member of an extra document whose value makes no difference. -/
def IsOther (member : Option String × Scan) : Prop :=
  ∃ name, member.1 = some name ∧ name ≠ restrictionName

/-- The tree of a list of texts. -/
def listScan (names : List String) : Scan := .array (names.map fun name => .string (some name))

/-- The members of an object restrict uploads to a list of texts: the restriction is among them
once, with this list. -/
def RestrictsTo (members : List (Option String × Scan)) (names : List String) : Prop :=
  ∃ front back, members = front ++ (some restrictionName, listScan names) :: back ∧
    ∀ member ∈ front ++ back, IsOther member

/-- The members of an object restrict nothing. -/
inductive RestrictsNothing (members : List (Option String × Scan)) : Prop
  | missing (h : ∀ member ∈ members, member.1 ≠ some restrictionName)
  | repeated (h : 1 < (members.map Prod.fst).count (some restrictionName))
  | null (h : (some restrictionName, Scan.null) ∈ members)
  /-- The value is no list of texts. -/
  | mistyped {scan : Scan} (hmem : (some restrictionName, scan) ∈ members)
    (h : ∀ names, scan ≠ listScan names)
  /-- The name of a member has half of a surrogate pair. -/
  | unnamed {scan : Scan} (hmem : (none, scan) ∈ members)

/-! ## The members of an extra document -/

variable {members : List (Option String × Scan)} {names : List String} {scan : Scan}
  {draft found : Option (List String)} {schema text : String}

theorem optional_list_eq_ok_iff :
    Json.Decode.optional (Json.Decode.list Json.Decode.string) scan = .ok (some names) ↔
      scan = listScan names := by
  cases scan with
  | array scans =>
    simp [Json.Decode.optional, Json.Decode.list, listScan, map_eq_ok_iff,
      Json.Decode.mapM_string_eq_ok_iff_eq]
  | _ => simp [Json.Decode.optional, Json.Decode.list, listScan, Except.map]

theorem isOther_iff {name : String} : IsOther (some name, scan) ↔ name ≠ restrictionName := by
  simp [IsOther]

theorem mem_extraFields_iff {name : String} :
    name ∈ extraFields.names ↔ name = restrictionName := List.mem_singleton

/-- After the restriction all members make no difference. -/
theorem readMembers_seen_eq_ok_iff :
    Json.Decode.readMembers extraFields true draft [restrictionName] members = .ok found ↔
      draft = found ∧ ∀ member ∈ members, IsOther member := by
  induction members with
  | nil => simp [Json.Decode.readMembers]
  | cons member members ih =>
    obtain ⟨name, scan⟩ := member
    cases name with
    | none => simp [Json.Decode.readMembers, IsOther]
    | some name =>
      rw [Json.Decode.readMembers, List.forall_mem_cons]
      by_cases hname : name = restrictionName
      · simp [hname, isOther_iff]
      · rw [if_neg (by simpa using hname), if_neg (mt mem_extraFields_iff.mp hname), ih]
        simp [hname, isOther_iff]

theorem restrictsTo_cons_iff {member : Option String × Scan} :
    RestrictsTo (member :: members) names ↔
      (member = (some restrictionName, listScan names) ∧ ∀ later ∈ members, IsOther later) ∨
        (IsOther member ∧ RestrictsTo members names) := by
  constructor
  · rintro ⟨front, back, h, hothers⟩
    cases front with
    | nil =>
      obtain ⟨rfl, rfl⟩ := List.cons.inj h
      exact .inl ⟨rfl, hothers⟩
    | cons first front =>
      obtain ⟨rfl, rfl⟩ := List.cons.inj h
      obtain ⟨hfirst, hothers⟩ := List.forall_mem_cons.mp hothers
      exact .inr ⟨hfirst, front, back, rfl, hothers⟩
  · rintro (⟨rfl, hothers⟩ | ⟨hmember, front, back, rfl, hothers⟩)
    · exact ⟨[], members, rfl, hothers⟩
    · exact ⟨member :: front, back, rfl, List.forall_mem_cons.mpr ⟨hmember, hothers⟩⟩

theorem readMembers_eq_ok_iff :
    Json.Decode.readMembers extraFields true none [] members = .ok (some names) ↔
      RestrictsTo members names := by
  induction members with
  | nil => simp [Json.Decode.readMembers, RestrictsTo]
  | cons member members ih =>
    rw [restrictsTo_cons_iff, ← ih]
    obtain ⟨name, scan⟩ := member
    cases name with
    | none => simp [Json.Decode.readMembers, IsOther]
    | some name =>
      rw [Json.Decode.readMembers, if_neg List.not_mem_nil]
      by_cases hname : name = restrictionName
      · subst hname
        rw [if_pos (mem_extraFields_iff.mpr rfl), bind_eq_ok_iff]
        simp only [readMembers_seen_eq_ok_iff, Prod.mk.injEq, true_and,
          ← optional_list_eq_ok_iff]
        constructor
        · rintro ⟨_, hread, rfl, hothers⟩
          exact .inl ⟨hread, hothers⟩
        · rintro (⟨hread, hothers⟩ | ⟨hother, -⟩)
          · exact ⟨_, hread, rfl, hothers⟩
          · exact absurd rfl (isOther_iff.mp hother)
      · rw [if_neg (mt mem_extraFields_iff.mp hname)]
        simp [hname, isOther_iff]

theorem extraDecoder_object_eq_ok_iff (hne : names ≠ []) :
    extraDecoder (.object members true) = .ok names ↔ RestrictsTo members names := by
  rw [← readMembers_eq_ok_iff, extraDecoder, Json.Decode.record, bind_eq_ok_iff]
  constructor
  · rintro ⟨found, hread, h⟩
    have h : (Except.ok (found.getD []) : Except Json.Fault _) = .ok names := h
    obtain rfl := Except.ok.inj h
    cases found with
    | none => exact absurd rfl hne
    | some found => exact hread
  · intro hread
    exact ⟨some names, hread, rfl⟩

/-! ## The text of an extra document -/

/-- The schemas come from the list that is decoded, if one is. -/
theorem mem_schemasOfExtra_iff :
    schema ∈ schemasOfExtra (some text) ↔ schema ≠ "" ∧ ∃ names,
      Json.decode extraDecoder (Text.trim text) = .ok names ∧
        ∃ raw ∈ names, Text.trim raw = schema := by
  rw [schemasOfExtra]
  dsimp only [Option.map_some]
  split
  next hblank =>
    have hempty : Scan.ofText "" = (.broken, true) := rfl
    rw [hblank]
    simp [Json.decode_eq_ok_iff, hempty]
  next =>
    cases hread : Json.decode extraDecoder (Text.trim text) with
    | ok names => simp [mem_normalNames_iff]
    | error fault => simp

theorem mem_schemasOfExtra_object_iff (h : Holds text (.object members true)) :
    schema ∈ schemasOfExtra (some text) ↔ schema ≠ "" ∧ ∃ names, RestrictsTo members names ∧
        ∃ raw ∈ names, Text.trim raw = schema := by
  rw [Json.holds_iff, ← Json.ofText_eq_iff] at h
  simp only [mem_schemasOfExtra_iff, Json.decode_eq_ok_iff, h, and_true]
  apply and_congr_right'
  constructor
  · rintro ⟨names, hread, raw, hraw, htrim⟩
    have hne : names ≠ [] := List.ne_nil_of_mem hraw
    exact ⟨names, (extraDecoder_object_eq_ok_iff hne).mp hread, raw, hraw, htrim⟩
  · rintro ⟨names, hrestricts, raw, hraw, htrim⟩
    have hne : names ≠ [] := List.ne_nil_of_mem hraw
    exact ⟨names, (extraDecoder_object_eq_ok_iff hne).mpr hrestricts, raw, hraw, htrim⟩

theorem RestrictsTo.unique {others : List String} (h : RestrictsTo members names)
    (hothers : RestrictsTo members others) : names = others := by
  rw [← readMembers_eq_ok_iff] at h hothers
  rw [h] at hothers
  exact Option.some.inj (Except.ok.inj hothers)

/-- The members of an object that restricts uploads. -/
theorem RestrictsTo.isOther_or_eq {member : Option String × Scan} (h : RestrictsTo members names)
    (hmem : member ∈ members) :
    IsOther member ∨ member = (some restrictionName, listScan names) := by
  obtain ⟨front, back, rfl, hothers⟩ := h
  rcases List.mem_append.mp hmem with hfront | hback
  · exact .inl (hothers member (List.mem_append_left _ hfront))
  · rcases List.mem_cons.mp hback with rfl | hback
    · exact .inr rfl
    · exact .inl (hothers member (List.mem_append_right _ hback))

theorem RestrictsTo.eq_listScan (h : RestrictsTo members names)
    (hmem : (some restrictionName, scan) ∈ members) : scan = listScan names := by
  rcases h.isOther_or_eq hmem with hother | heq
  · exact absurd rfl (isOther_iff.mp hother)
  · exact (Prod.mk.inj heq).2

theorem RestrictsTo.count_eq_one (h : RestrictsTo members names) :
    (members.map Prod.fst).count (some restrictionName) = 1 := by
  obtain ⟨front, back, rfl, hothers⟩ := h
  have hnone : ∀ part ⊆ front ++ back, (part.map Prod.fst).count (some restrictionName) = 0 := by
    intro part hpart
    rw [List.count_eq_zero, List.mem_map]
    rintro ⟨member, hmember, hname⟩
    obtain ⟨name, hother, hne⟩ := hothers member (hpart hmember)
    rw [hother] at hname
    exact hne (Option.some.inj hname)
  rw [List.map_append, List.map_cons, List.count_append, List.count_cons_self,
    hnone front (List.subset_append_left _ _), hnone back (List.subset_append_right _ _)]

theorem RestrictsNothing.not_restrictsTo (h : RestrictsNothing members) :
    ¬ RestrictsTo members names := by
  intro hrestricts
  cases h with
  | missing h =>
    obtain ⟨front, back, rfl, -⟩ := hrestricts
    exact h _ (List.mem_append_right _ List.mem_cons_self) rfl
  | repeated h =>
    rw [hrestricts.count_eq_one] at h
    exact absurd h (Nat.lt_irrefl 1)
  | null h => exact absurd (hrestricts.eq_listScan h) (by simp [listScan])
  | mistyped hmem h => exact h names (hrestricts.eq_listScan hmem)
  | unnamed hmem =>
    rcases hrestricts.isOther_or_eq hmem with ⟨name, hname, -⟩ | heq
    · exact absurd hname (by simp)
    · exact absurd (Prod.mk.inj heq).1 (by simp)

theorem RestrictsNothing.of_mem {front back : List (Option String × Scan)} {first second : Scan}
    (h : (some restrictionName, second) ∈ front ++ back) :
    RestrictsNothing (front ++ (some restrictionName, first) :: back) := by
  have hcount : 0 < ((front ++ back).map Prod.fst).count (some restrictionName) :=
    List.count_pos_iff.mpr (List.mem_map.mpr ⟨_, h, rfl⟩)
  refine .repeated ?_
  simp only [List.map_append, List.map_cons, List.count_append, List.count_cons_self] at hcount ⊢
  omega

/-- Every object restricts uploads to a list of texts, or restricts nothing. -/
theorem restrictsTo_or_restrictsNothing (members : List (Option String × Scan)) :
    (∃ names, RestrictsTo members names) ∨ RestrictsNothing members := by
  by_cases hmissing : ∀ member ∈ members, member.1 ≠ some restrictionName
  · exact .inr (.missing hmissing)
  · push Not at hmissing
    obtain ⟨⟨_, scan⟩, hmem, rfl⟩ := hmissing
    by_cases hlist : ∃ names, scan = listScan names
    · obtain ⟨names, rfl⟩ := hlist
      obtain ⟨front, back, rfl⟩ := List.append_of_mem hmem
      by_cases hothers : ∀ member ∈ front ++ back, IsOther member
      · exact .inl ⟨names, front, back, rfl, hothers⟩
      · push Not at hothers
        obtain ⟨⟨name, scan⟩, hmember, hname⟩ := hothers
        cases name with
        | none =>
          have hmem : (none, scan) ∈ front ++ (some restrictionName, listScan names) :: back :=
            List.mem_append.mpr ((List.mem_append.mp hmember).imp_right (List.mem_cons_of_mem _))
          exact .inr (.unnamed hmem)
        | some name =>
          obtain rfl := of_not_not (mt isOther_iff.mpr hname)
          exact .inr (.of_mem hmember)
    · exact .inr (.mistyped hmem (not_exists.mp hlist))

theorem mem_schemasOfExtra_iff_of_restrictsTo (h : Holds text (.object members true))
    (hrestricts : RestrictsTo members names) :
    schema ∈ schemasOfExtra (some text) ↔ schema ≠ "" ∧ ∃ raw ∈ names, Text.trim raw = schema := by
  rw [mem_schemasOfExtra_object_iff h]
  apply and_congr_right'
  constructor
  · rintro ⟨others, hothers, hraw⟩
    rwa [hrestricts.unique hothers]
  · intro hraw
    exact ⟨names, hrestricts, hraw⟩

theorem schemasOfExtra_eq_empty_of_not_holds (h : ∀ scan, ¬ Holds text scan) :
    schemasOfExtra (some text) = ∅ := by
  rw [NameSet.eq_empty_iff]
  intro schema hschema
  obtain ⟨-, names, hread, -⟩ := mem_schemasOfExtra_iff.mp hschema
  obtain ⟨-, htrailing⟩ := Json.decode_eq_ok_iff.mp hread
  cases hscan : Scan.ofText (Text.trim text) with
  | mk scan trailing =>
    rw [hscan] at htrailing
    obtain rfl : trailing = false := htrailing
    exact h scan (Json.holds_iff.mpr (Json.ofText_eq_iff.mp hscan))

/-- The extra document that restricts uploads to some schemas and holds nothing else. -/
def extraOf (schemas : NameSet) : Json.Value :=
  .ofMembers [(restrictionName, .strings schemas.toList)]

theorem holds_text_extraOf (schemas : NameSet) :
    Holds (extraOf schemas).text
      (.object [(some restrictionName, listScan schemas.toList)] true) := by
  have hlist : Json.ReadsBack (.strings schemas.toList) (listScan schemas.toList) := by
    apply Json.readsBack_array
    rw [List.forall₂_map_left_iff, List.forall₂_map_right_iff, List.forall₂_same]
    exact fun name _ => Json.readsBack_string name
  exact Json.holds_text (Json.readsBack_object (.cons ⟨rfl, hlist⟩ .nil))

/-- The schemas of an extra document are those of its list, whatever stands around the list. An
object without such a list, and a text that is no JSON, restricts nothing. -/
theorem schemasOfExtra_reads_list_or_nothing (text : String) :
    (∀ members, Holds text (.object members true) →
      (∀ names, RestrictsTo members names → ∀ schema,
        schema ∈ schemasOfExtra (some text) ↔
          schema ≠ "" ∧ ∃ raw ∈ names, Text.trim raw = schema) ∧
      (RestrictsNothing members → schemasOfExtra (some text) = ∅)) ∧
    ((∀ scan, ¬ Holds text scan) → schemasOfExtra (some text) = ∅) ∧
    ∀ schemas : NameSet, (∀ schema ∈ schemas, Text.trim schema = schema ∧ schema ≠ "") →
      schemasOfExtra (some (extraOf schemas).text) = schemas := by
  refine ⟨fun members h => ⟨fun names hnames schema => ?_, fun hnothing => ?_⟩,
    schemasOfExtra_eq_empty_of_not_holds, fun schemas hschemas => ?_⟩
  · exact mem_schemasOfExtra_iff_of_restrictsTo h hnames
  · rw [NameSet.eq_empty_iff]
    intro schema hschema
    obtain ⟨-, names, hnames, -⟩ := (mem_schemasOfExtra_object_iff h).mp hschema
    exact hnothing.not_restrictsTo hnames
  · apply NameSet.ext_mem
    intro schema
    have hrestricts : RestrictsTo [(some restrictionName, listScan schemas.toList)]
        schemas.toList := ⟨[], [], rfl, by simp⟩
    rw [mem_schemasOfExtra_iff_of_restrictsTo (holds_text_extraOf schemas) hrestricts]
    constructor
    · rintro ⟨-, raw, hraw, rfl⟩
      rwa [(hschemas raw hraw).1]
    · intro hmem
      obtain ⟨htrim, hne⟩ := hschemas schema hmem
      exact ⟨hne, schema, hmem, htrim⟩

/-- An extra document with white space around it, an escape in a name, and values that are no text
and no number. -/
def spacedExtra : String :=
  "\u00a0\x7b\"note\" : \"\\ud800\",\"schemas_allowed\\u005ffor_file_upload\":\n[\" sales\\t\", " ++
    "\"\", \"ops\",\"ops \"], \"note\":[1e999, \x7b\x7d]\x7d\u3000\r\n"

def spacedMembers : List (Option String × Scan) :=
  [(some "note", .string none), (some restrictionName, listScan [" sales\t", "", "ops", "ops "]),
    (some "note", .array [.number ⟨false, ['1'], none, some ⟨false, ['9', '9', '9']⟩⟩,
      .object [] true])]

theorem holds_spacedExtra : Holds spacedExtra (.object spacedMembers true) :=
  Json.holds_iff.mpr (Json.ofText_eq_iff.mp (by decide +kernel))

theorem restrictsTo_spacedMembers : RestrictsTo spacedMembers [" sales\t", "", "ops", "ops "] :=
  ⟨[_], [_], rfl, by simp [IsOther, restrictionName]⟩

theorem schemasOfExtra_reads_spacedExtra :
    (∀ schema, schema ∈ schemasOfExtra (some spacedExtra) ↔ schema = "sales" ∨ schema = "ops") ∧
    schemasOfExtra (some "\x7b\"schemas_allowed_for_file_upload\":null\x7d") = ∅ ∧
    schemasOfExtra (some "\x7bnot json") = ∅ ∧
    schemasOfExtra (some (extraOf (.ofList ["sales"])).text) = .ofList ["sales"] := by
  refine ⟨fun schema => ?_, ?_, ?_, ?_⟩
  · rw [((schemasOfExtra_reads_list_or_nothing spacedExtra).1 _ holds_spacedExtra).1 _
      restrictsTo_spacedMembers]
    have htrim : Text.trim " sales\t" = "sales" ∧ Text.trim "" = "" ∧ Text.trim "ops" = "ops" ∧
      Text.trim "ops " = "ops" := by decide
    simp only [List.mem_cons, List.not_mem_nil, or_false, exists_eq_or_imp, exists_eq_left, htrim]
    constructor
    · rintro ⟨hne, rfl | rfl | rfl | rfl⟩
      · exact .inl rfl
      · exact absurd rfl hne
      · exact .inr rfl
      · exact .inr rfl
    · rintro (rfl | rfl)
      · exact ⟨by decide, .inl rfl⟩
      · exact ⟨by decide, .inr (.inr (.inl rfl))⟩
  · have hholds : Holds "\x7b\"schemas_allowed_for_file_upload\":null\x7d"
        (.object [(some restrictionName, .null)] true) :=
      Json.holds_iff.mpr (Json.ofText_eq_iff.mp (by decide +kernel))
    exact ((schemasOfExtra_reads_list_or_nothing _).1 _ hholds).2 (.null List.mem_cons_self)
  · apply (schemasOfExtra_reads_list_or_nothing _).2.1
    intro scan h
    rw [Json.holds_iff, ← Json.ofText_eq_iff] at h
    have htrailing : (Scan.ofText (Text.trim "\x7bnot json")).2 = true := by decide
    rw [h] at htrailing
    exact Bool.false_ne_true htrailing
  · apply (schemasOfExtra_reads_list_or_nothing "").2.2
    intro schema hschema
    obtain rfl := List.mem_singleton.mp (NameSet.mem_ofList.mp hschema)
    decide

/-- An object that names the restriction once, with half of a surrogate pair for another name. -/
def halfNamedExtra : String :=
  "\x7b\"schemas_allowed_for_file_upload\":[\"sales\"],\"\\ud800\":1\x7d"

def halfNamedMembers : List (Option String × Scan) :=
  [(some restrictionName, listScan ["sales"]), (none, .number ⟨false, ['1'], none, none⟩)]

theorem holds_halfNamedExtra : Holds halfNamedExtra (.object halfNamedMembers true) :=
  Json.holds_iff.mpr (Json.ofText_eq_iff.mp (by decide +kernel))

/-- A restriction that stands once in an object may be lost all the same. -/
theorem half_named_extra_restricts_nothing :
    ¬ ∀ (text : String) (front back : List (Option String × Scan)) (names : List String),
      Holds text (.object (front ++ (some restrictionName, listScan names) :: back) true) →
      (∀ member ∈ front ++ back, member.1 ≠ some restrictionName) →
        ∀ schema, schema ∈ schemasOfExtra (some text) ↔
          schema ≠ "" ∧ ∃ raw ∈ names, Text.trim raw = schema := by
  intro hreads
  have hsales : "sales" ∈ schemasOfExtra (some halfNamedExtra) :=
    (hreads halfNamedExtra [] _ ["sales"] holds_halfNamedExtra (by simp) "sales").mpr
      ⟨by decide, "sales", List.mem_singleton_self _, by decide⟩
  obtain ⟨-, names, hrestricts, -⟩ :=
    (mem_schemasOfExtra_object_iff holds_halfNamedExtra).mp hsales
  have hnothing : RestrictsNothing halfNamedMembers :=
    .unnamed (List.mem_cons_of_mem _ List.mem_cons_self)
  exact hnothing.not_restrictsTo hrestricts

end Connection

end UploadGate
