import Mathlib.Data.List.Perm.Basic
import UploadGate.Proofs.Json.Arrays
import UploadGate.Proofs.Json.Printing
import UploadGate.Proofs.Text.Tables

/-! # Decoding what was written

A decoder reads a value from JSON if it finds the value in the text that the JSON is written as. A
record is read from an object that holds its fields in any order: every field changes the draft of
the record in a way of its own, so that the order of the changes makes no difference.
-/

namespace UploadGate.Json

/-- An object of the given members, in any order. -/
def Value.IsObjectOf (value : Value) (members : List (String × Value)) : Prop :=
  ∃ listed, value = .object listed ∧ listed.Perm members

/-- An object that is built from members of distinct names is an object of these members. -/
theorem Value.isObjectOf_ofMembers {members : List (String × Value)}
    (hdistinct : (members.map Prod.fst).Nodup) : (ofMembers members).IsObjectOf members := by
  refine ⟨(NameTable.ofList members).entries, rfl, ?_⟩
  have hreversed : (members.reverse.map Prod.fst).Nodup := by
    rw [List.map_reverse]
    exact List.nodup_reverse.mpr hdistinct
  apply (List.perm_ext_iff_of_nodup (List.Nodup.of_map Prod.fst (NameTable.nodup_names _))
    (List.Nodup.of_map Prod.fst hdistinct)).mpr
  intro member
  rw [← NameTable.get?_eq_some_iff, NameTable.get?_ofList,
    lookup_eq_some_iff_of_nodup hreversed, List.mem_reverse]

/-! ## Numbers -/

namespace Numeral

open UploadGate.Numeral (digitValue ofNat value_ofNat)

theorem le_foldl_digitValue (n : Nat) (digits : List Char) :
    n ≤ digits.foldl (fun n c => 10 * n + digitValue c) n := by
  induction digits generalizing n with
  | nil => exact Nat.le_refl n
  | cons c digits ih =>
    have hnext := ih (10 * n + digitValue c)
    rw [List.foldl_cons]
    omega

/-- Digits of a number that fits in 64 bits are all taken in. -/
theorem fill_eq {n : Nat} {digits : List Char}
    (h : digits.foldl (fun n c => 10 * n + digitValue c) n < wordLimit) :
    fill n digits = (digits.foldl (fun n c => 10 * n + digitValue c) n, []) := by
  induction digits generalizing n with
  | nil => rfl
  | cons c digits ih =>
    rw [List.foldl_cons] at h ⊢
    have hnext : 10 * n + digitValue c < wordLimit :=
      Nat.lt_of_le_of_lt (le_foldl_digitValue _ digits) h
    rw [fill, if_pos hnext, ih h]

theorem fill_ofNat {n : Nat} (h : n < wordLimit) : fill 0 (ofNat n) = (n, []) := by
  have hvalue := value_ofNat n
  rw [UploadGate.Numeral.value] at hvalue
  rw [fill_eq (by rwa [hvalue]), hvalue]

end Numeral

/-- The integers of 64 bits, with or without a sign. -/
def IsWord (n : Int) : Prop := -9223372036854775808 ≤ n ∧ n < 18446744073709551616

theorem value?_numeralOf {n : Int} (h : IsWord n) :
    (numeralOf n).value? = some (.integer n) := by
  obtain ⟨hlow, hhigh⟩ := h
  have hword : n.natAbs < Numeral.wordLimit := by
    have hlimit : Numeral.wordLimit = 18446744073709551616 := rfl
    omega
  have hhalf : Nat.pow 2 63 = 9223372036854775808 := rfl
  unfold Numeral.value? numeralOf
  simp only [Numeral.fill_ofNat hword]
  by_cases hneg : n < 0
  · rw [if_neg (by simp [hneg]), if_pos ⟨by simp, by omega, by omega⟩]
    simp only [Option.some.injEq, Number.integer.injEq]
    omega
  · rw [if_pos (by simp [hneg])]
    simp only [Option.some.injEq, Number.integer.injEq]
    omega
/-! ## Objects -/

/-- The members that are there, of those that may be left out. -/
def Value.present (members : List (String × Option Value)) : List (String × Value) :=
  members.filterMap fun (name, value) => value.map (name, ·)

theorem Value.mem_present_iff {members : List (String × Option Value)} {name : String}
    {value : Value} : (name, value) ∈ present members ↔ (name, some value) ∈ members := by
  simp only [present, List.mem_filterMap, Option.map_eq_some_iff, Prod.exists, Prod.mk.injEq]
  constructor
  · rintro ⟨_, _, hmem, _, rfl, rfl, rfl⟩
    exact hmem
  · intro hmem
    exact ⟨name, some value, hmem, value, rfl, rfl, rfl⟩

theorem Value.nodup_map_fst_present {members : List (String × Option Value)}
    (hdistinct : (members.map Prod.fst).Nodup) : ((present members).map Prod.fst).Nodup := by
  refine hdistinct.sublist ?_
  induction members with
  | nil => exact .slnil
  | cons member members ih =>
    have hlater := ih (List.nodup_cons.mp hdistinct).2
    obtain ⟨name, _ | value⟩ := member
    · exact hlater.cons name
    · exact hlater.cons_cons name

/-- An object of distinct members holds each of them under its name, and a member that is left out
not at all. -/
theorem Value.IsObjectOf.get?_eq {value : Value} {members : List (String × Option Value)}
    {name : String} {member : Option Value} (h : value.IsObjectOf (present members))
    (hdistinct : (members.map Prod.fst).Nodup) (hmem : (name, member) ∈ members) :
    value.get? name = member := by
  obtain ⟨listed, rfl, hperm⟩ := h
  have hlisted : (listed.map Prod.fst).Nodup :=
    (hperm.map Prod.fst).nodup_iff.mpr (nodup_map_fst_present hdistinct)
  ext found
  change listed.lookup name = some found ↔ member = some found
  rw [lookup_eq_some_iff_of_nodup hlisted, hperm.mem_iff, mem_present_iff,
    ← lookup_eq_some_iff_of_nodup hdistinct, (lookup_eq_some_iff_of_nodup hdistinct).mpr hmem,
    Option.some_inj]

namespace Decode

variable {α δ : Type} {decoder : Decoder α} {value : Value} {found : α}

/-- A decoder finds a value in what some JSON reads back as. -/
def Reads (decoder : Decoder α) (value : Value) (found : α) : Prop :=
  ∃ scan, ReadsBack value scan ∧ decoder scan = .ok found

theorem Reads.decode_text (h : Reads decoder value found) :
    decode decoder value.text = .ok found := by
  obtain ⟨scan, hscan, hfound⟩ := h
  rw [decode_eq_ok_iff, ofText_text hscan]
  exact ⟨hfound, rfl⟩

theorem reads_bool (b : Bool) : Reads bool (.bool b) b := ⟨_, readsBack_bool b, rfl⟩

theorem reads_string (s : String) : Reads string (.string s) s := ⟨_, readsBack_string s, rfl⟩

theorem reads_integer {n : Int} (h : UploadGate.Numeral.InRange n) :
    Reads integer (.integer n) n := by
  refine ⟨_, readsBack_integer n, ?_⟩
  obtain ⟨hlow, hhigh⟩ := h
  rw [integer, value?_numeralOf ⟨hlow, by omega⟩]
  exact if_pos (UploadGate.Numeral.fitsSigned_iff.mpr ⟨hlow, hhigh⟩)

/-- A decoder that makes nothing of null keeps its value where null may stand. -/
theorem Reads.optional_some (h : Reads decoder value found)
    (hnull : decoder .null ≠ .ok found) : Reads (optional decoder) value (some found) := by
  obtain ⟨scan, hscan, hfound⟩ := h
  refine ⟨scan, hscan, ?_⟩
  unfold optional
  split
  next => exact absurd hfound hnull
  next => rw [hfound]; rfl

theorem reads_optional_string (s : Option String) :
    Reads (optional string) (.ofOption .string s) s := by
  cases s with
  | none => exact ⟨_, readsBack_null, rfl⟩
  | some s => exact (reads_string s).optional_some (by simp [string])

/-! ## Lists -/

theorem reads_list {values : List Value} {list : List α}
    (h : List.Forall₂ (Reads decoder) values list) :
    Reads (Decode.list decoder) (.array values) list := by
  have hscans : ∃ scans, List.Forall₂ ReadsBack values scans ∧ scans.mapM decoder = .ok list := by
    induction h with
    | nil => exact ⟨[], .nil, rfl⟩
    | cons hfirst _ ih =>
      obtain ⟨scan, hscan, hfound⟩ := hfirst
      obtain ⟨scans, hscans, hlist⟩ := ih
      refine ⟨scan :: scans, .cons hscan hscans, ?_⟩
      rw [List.mapM_cons, hfound, hlist]
      rfl
  obtain ⟨scans, hscans, hlist⟩ := hscans
  exact ⟨_, readsBack_array hscans, hlist⟩

theorem reads_strings (names : List String) :
    Reads (Decode.list string) (.strings names) names := by
  apply reads_list
  rw [List.forall₂_map_left_iff, List.forall₂_same]
  intro name _
  exact reads_string name

theorem reads_names (set : NameSet) : Reads names (.strings set.toList) set := by
  obtain ⟨scan, hscan, hfound⟩ := reads_strings set.toList
  refine ⟨scan, hscan, ?_⟩
  rw [names, hfound]
  change Except.ok (NameSet.ofList set.toList) = .ok set
  rw [NameSet.ofList_toList]

/-! ## Records -/

variable {fields : Fields δ} {members : List (String × Value)} {changes : List (δ → δ)}

/-- A member is read as a field, by a change of the draft. -/
structure Fills (fields : Fields δ) (member : String × Value) (change : δ → δ) : Prop where
  known : member.1 ∈ fields.names
  reads : ∃ scan, ReadsBack member.2 scan ∧
    ∀ draft, fields.read member.1 scan draft = .ok (change draft)

/-- A field that a decoder reads is set to what the decoder finds. -/
theorem fills_of_reads {name : String} (set : α → δ → δ) (hreads : Reads decoder value found)
    (hknown : name ∈ fields.names)
    (hfield : ∀ scan draft, fields.read name scan draft = (decoder scan).map (set · draft)) :
    Fills fields (name, value) (set found) := by
  obtain ⟨scan, hscan, hfound⟩ := hreads
  refine ⟨hknown, scan, hscan, fun draft => ?_⟩
  rw [hfield, hfound]
  rfl

/-- Fields of distinct names are read one after another, whatever names were read before them. -/
theorem exists_readMembers (hfills : List.Forall₂ (Fills fields) members changes)
    (hdistinct : (members.map Prod.fst).Nodup) :
    ∃ scanned, List.Forall₂ MemberReadsBack members scanned ∧
      ∀ draft seen, (∀ member ∈ members, member.1 ∉ seen) →
        readMembers fields true draft seen scanned =
          .ok (changes.foldl (fun draft change => change draft) draft) := by
  induction hfills with
  | nil => exact ⟨[], .nil, fun _ _ _ => rfl⟩
  | @cons member change members changes hfirst _ ih =>
    obtain ⟨hfresh, hdistinct⟩ := List.nodup_cons.mp hdistinct
    obtain ⟨scanned, hscanned, hlater⟩ := ih hdistinct
    obtain ⟨hknown, scan, hscan, hread⟩ := hfirst
    refine ⟨(some member.1, scan) :: scanned, .cons ⟨rfl, hscan⟩ hscanned, ?_⟩
    intro draft seen hseen
    obtain ⟨hunseen, hseen⟩ := List.forall_mem_cons.mp hseen
    have hothers : ∀ other ∈ members, other.1 ∉ member.1 :: seen := by
      intro other hother hmem
      rcases List.mem_cons.mp hmem with hsame | hmem
      · exact hfresh (List.mem_map.mpr ⟨other, hother, hsame⟩)
      · exact hseen other hother hmem
    rw [readMembers, if_neg hunseen, if_pos hknown, hread]
    exact hlater (change draft) (member.1 :: seen) hothers

/-- A record is read from an object of its fields in any order. -/
theorem reads_record {empty : δ} {finish : δ → Option α} (hobject : value.IsObjectOf members)
    (hfills : List.Forall₂ (Fills fields) members changes)
    (hdistinct : (members.map Prod.fst).Nodup)
    (hcommute : ∀ first ∈ changes, ∀ second ∈ changes, ∀ draft,
      second (first draft) = first (second draft))
    (hfinish : finish (changes.foldl (fun draft change => change draft) empty) = some found) :
    Reads (record fields empty finish) value found := by
  obtain ⟨listed, rfl, hperm⟩ := hobject
  -- The changes are put in the order of the members.
  obtain ⟨ordered, hordered, hchanges⟩ := List.perm_comp_forall₂ hperm hfills
  have hlisted : (listed.map Prod.fst).Nodup := (hperm.map Prod.fst).nodup_iff.mpr hdistinct
  obtain ⟨scanned, hscanned, hread⟩ := exists_readMembers hordered hlisted
  have hdraft : ordered.foldl (fun draft change => change draft) empty =
      changes.foldl (fun draft change => change draft) empty := by
    apply hchanges.foldl_eq'
    intro first hfirst second hsecond draft
    exact hcommute first (hchanges.mem_iff.mp hfirst) second (hchanges.mem_iff.mp hsecond) draft
  refine ⟨.object scanned true, readsBack_object hscanned, ?_⟩
  have hmembers := hread empty [] (by simp)
  rw [hdraft] at hmembers
  rw [record, hmembers]
  change (finish _).elim _ _ = _
  rw [hfinish]
  rfl

/-- A member that may be left out is read as a field by a change of the draft. -/
def FillsIfPresent (fields : Fields δ) (member : String × Option Value) (change : δ → δ) : Prop :=
  match member.2 with
  | some value => Fills fields (member.1, value) change
  | none => change = id

theorem fillsIfPresent_of_rel {name : String} {member : Option Value} {found : Option α}
    (set : α → δ → δ) (hreads : Option.Rel (Reads decoder) member found)
    (hknown : name ∈ fields.names)
    (hfield : ∀ scan draft, fields.read name scan draft = (decoder scan).map (set · draft)) :
    FillsIfPresent fields (name, member) (found.elim id set) := by
  cases hreads with
  | some h => exact fills_of_reads set h hknown hfield
  | none => rfl

theorem exists_fills_present {optional : List (String × Option Value)}
    (h : List.Forall₂ (FillsIfPresent fields) optional changes) :
    ∃ made, List.Forall₂ (Fills fields) (Value.present optional) made ∧ made ⊆ changes ∧
      ∀ draft, made.foldl (fun draft change => change draft) draft =
        changes.foldl (fun draft change => change draft) draft := by
  induction h with
  | nil => exact ⟨[], .nil, List.Subset.refl _, fun _ => rfl⟩
  | @cons member change optional changes hfirst _ ih =>
    obtain ⟨made, hmade, hsubset, hsame⟩ := ih
    obtain ⟨name, _ | value⟩ := member
    · obtain rfl : change = id := hfirst
      exact ⟨made, hmade, List.subset_cons_of_subset _ hsubset, hsame⟩
    · exact ⟨change :: made, .cons hfirst hmade, List.cons_subset_cons _ hsubset,
        fun draft => hsame (change draft)⟩

/-- A record is read from an object of those of its fields that are not left out. -/
theorem reads_record_present {empty : δ} {finish : δ → Option α}
    {optional : List (String × Option Value)}
    (hobject : value.IsObjectOf (Value.present optional))
    (hfills : List.Forall₂ (FillsIfPresent fields) optional changes)
    (hdistinct : (optional.map Prod.fst).Nodup)
    (hcommute : ∀ first ∈ changes, ∀ second ∈ changes, ∀ draft,
      second (first draft) = first (second draft))
    (hfinish : finish (changes.foldl (fun draft change => change draft) empty) = some found) :
    Reads (record fields empty finish) value found := by
  obtain ⟨made, hmade, hsubset, hsame⟩ := exists_fills_present hfills
  apply reads_record hobject hmade (Value.nodup_map_fst_present hdistinct)
  · intro first hfirst second hsecond draft
    exact hcommute first (hsubset hfirst) second (hsubset hsecond) draft
  · rw [hsame, hfinish]

end Decode

end UploadGate.Json
