import UploadGate.Proofs.Json.Reading

/-! # What decoders find

What holds of the empty draft of a record and is kept by every field holds of the draft in the end.
A value of any shape that was found in a text is nested no deeper than the text may be, its objects
are tables and its whole numbers fit in 64 bits; a value with these properties and without doubles
is read back from the text that it is written as.
-/

namespace UploadGate

theorem NameTable.ofList_entries {α : Type} (table : NameTable α) :
    ofList table.entries = table := by
  apply ext_get?
  intro name
  have hreversed : (table.entries.reverse.map Prod.fst).Nodup := by
    rw [List.map_reverse]
    exact List.nodup_reverse.mpr table.nodup_names
  ext value
  rw [get?_ofList, lookup_eq_some_iff_of_nodup hreversed, List.mem_reverse, get?_eq_some_iff]

theorem NameTable.mem_of_mem_entries_ofList {α : Type} {entries : List (String × α)}
    {entry : String × α} (h : entry ∈ (ofList entries).entries) : entry ∈ entries := by
  obtain ⟨name, value⟩ := entry
  rw [← get?_eq_some_iff, get?_ofList, List.lookup_eq_some_iff] at h
  obtain ⟨later, earlier, hsplit, -⟩ := h
  rw [← List.mem_reverse, hsplit]
  exact List.mem_append_right _ List.mem_cons_self

namespace Json

namespace Decode

/-! ## Records -/

variable {α δ : Type} {fields : Fields δ} {P : δ → Prop} {draft : δ}

/-- Every field that is read keeps a property of the draft. -/
def Keeps (fields : Fields δ) (P : δ → Prop) : Prop :=
  ∀ {name scan draft next}, fields.read name scan draft = .ok next → P draft → P next

/-- A draft in which a field is set has a property that it has whatever value is found. -/
theorem of_set {read : Except Fault α} {set : α → δ} {next : δ}
    (hread : (read >>= fun found => pure (set found)) = .ok next)
    (h : ∀ found, read = .ok found → P (set found)) : P next := by
  obtain ⟨found, hfound, hnext⟩ := bind_eq_ok_iff.mp hread
  exact Except.ok.inj hnext ▸ h found hfound

theorem Keeps.readMembers (hkeeps : Keeps fields P) {closed : Bool} {seen : List String}
    {members : List (Option String × Scan)} {found : δ} (hdraft : P draft)
    (h : readMembers fields closed draft seen members = .ok found) : P found := by
  induction members generalizing draft seen with
  | nil =>
    rw [Decode.readMembers] at h
    split at h
    next => exact Except.ok.inj h ▸ hdraft
    next => exact absurd h (by simp)
  | cons member members ih =>
    obtain ⟨_ | name, scan⟩ := member
    · exact absurd h (by simp [Decode.readMembers])
    · rw [Decode.readMembers] at h
      split_ifs at h with hseen hknown
      · obtain ⟨next, hnext, h⟩ := bind_eq_ok_iff.mp h
        exact ih (hkeeps hnext hdraft) h
      · exact ih hdraft h

theorem Keeps.readItems (hkeeps : Keeps fields P) {names : List String} {items : List Scan}
    {found : δ} (hdraft : P draft) (h : readItems fields.read draft names items = .ok found) :
    P found := by
  induction items generalizing draft names with
  | nil =>
    rw [Decode.readItems] at h
    exact Except.ok.inj h ▸ hdraft
  | cons scan items ih =>
    cases names with
    | nil => exact absurd h (by simp [Decode.readItems])
    | cons name names =>
      obtain ⟨next, hnext, h⟩ := bind_eq_ok_iff.mp h
      exact ih (hkeeps hnext hdraft) h

theorem elim_throw_eq_ok_iff {outcome : Option α} {found : α} :
    (outcome.elim (throw Fault.mismatch) pure : Except Fault α) = .ok found ↔
      outcome = some found := by
  cases outcome with
  | none => exact iff_of_false throw_ne_ok (by simp)
  | some a => simp [pure, Except.pure]

/-- A record is made from a draft with the properties that its fields keep. -/
theorem Keeps.record (hkeeps : Keeps fields P) {empty : δ} {finish : δ → Option α} {scan : Scan}
    {found : α} (hempty : P empty) (h : record fields empty finish scan = .ok found) :
    ∃ draft, P draft ∧ finish draft = some found := by
  cases scan with
  | object members closed =>
    obtain ⟨draft, hdraft, h⟩ := bind_eq_ok_iff.mp h
    exact ⟨draft, hkeeps.readMembers hempty hdraft, elim_throw_eq_ok_iff.mp h⟩
  | array items =>
    obtain ⟨draft, hdraft, h⟩ := bind_eq_ok_iff.mp h
    exact ⟨draft, hkeeps.readItems hempty hdraft, elim_throw_eq_ok_iff.mp h⟩
  | _ => exact absurd h (by simp [Decode.record])

end Decode

/-! ## Values -/

namespace Value

/-- A value that a text can hold, without doubles: its integers fit in 64 bits, its objects are
tables, and it has at most the given number of arrays and objects around each other. -/
inductive IsPlain : Nat → Value → Prop
  | null {levels : Nat} : IsPlain levels .null
  | bool {levels : Nat} (b : Bool) : IsPlain levels (.bool b)
  | integer {levels : Nat} {n : Int} (h : IsWord n) : IsPlain levels (.integer n)
  | string {levels : Nat} (s : String) : IsPlain levels (.string s)
  | array {levels : Nat} {items : List Value} (h : ∀ item ∈ items, IsPlain levels item) :
    IsPlain (levels + 1) (.array items)
  | table {levels : Nat} {table : NameTable Value}
    (h : ∀ entry ∈ table.entries, IsPlain levels entry.2) : IsPlain (levels + 1) (.ofTable table)

/-- A value all of whose numbers are integers. -/
inductive IsWhole : Value → Prop
  | null : IsWhole .null
  | bool (b : Bool) : IsWhole (.bool b)
  | integer (n : Int) : IsWhole (.integer n)
  | string (s : String) : IsWhole (.string s)
  | array {items : List Value} (h : ∀ item ∈ items, IsWhole item) : IsWhole (.array items)
  | object {members : List (String × Value)} (h : ∀ member ∈ members, IsWhole member.2) :
    IsWhole (.object members)

end Value

theorem Numeral.fill_lt {n : Nat} {digits : List Char} (h : n < wordLimit) :
    (fill n digits).1 < wordLimit := by
  induction digits generalizing n with
  | nil => exact h
  | cons c digits ih =>
    rw [fill]
    split
    next hnext => exact ih hnext
    next => exact h

theorem isWord_of_value?_eq {numeral : Numeral} {n : Int}
    (h : numeral.value? = some (.integer n)) : IsWord n := by
  have hfront : (Numeral.fill 0 numeral.whole).1 < 18446744073709551616 :=
    Numeral.fill_lt (Nat.two_pow_pos 64)
  have hdouble : ∀ outcome : Option Double, outcome.map Number.double ≠ some (.integer n) := by
    simp
  have hlimit : Nat.pow 2 63 = 9223372036854775808 := rfl
  unfold Numeral.value? at h
  split at h
  next front dropped hfill =>
    rw [hfill] at hfront
    dsimp only at h hfront
    split_ifs at h with hunsigned hnegative
    · obtain rfl := Number.integer.inj (Option.some.inj h)
      exact ⟨by omega, by omega⟩
    · obtain rfl := Number.integer.inj (Option.some.inj h)
      obtain ⟨-, -, hsmall⟩ := hnegative
      exact ⟨by omega, by omega⟩
    · -- Every other numeral is a double.
      split at h
      next => exact absurd h (hdouble _)
      next =>
        split_ifs at h
        · exact absurd (Option.some.inj h) (by simp)
        · exact absurd h (hdouble _)
        · exact absurd h (hdouble _)
namespace Decode

variable {levels : Nat} {scan : Scan} {found : Value}

/-! ### Writing -/

theorem exists_values {items : List Value} (h : ∀ item ∈ items, Reads (value levels) item item) :
    ∃ scans, List.Forall₂ ReadsBack items scans ∧ values levels scans = .ok items := by
  induction items with
  | nil => exact ⟨[], .nil, by rw [values]⟩
  | cons item items ih =>
    obtain ⟨hitem, hitems⟩ := List.forall_mem_cons.mp h
    obtain ⟨scan, hscan, hfound⟩ := hitem
    obtain ⟨scans, hscans, hlater⟩ := ih hitems
    exact ⟨scan :: scans, .cons hscan hscans, by rw [values, hfound, hlater]; rfl⟩

theorem exists_memberValues {entries : List (String × Value)}
    (h : ∀ entry ∈ entries, Reads (value levels) entry.2 entry.2) :
    ∃ scanned, List.Forall₂ MemberReadsBack entries scanned ∧
      memberValues levels scanned = .ok entries := by
  induction entries with
  | nil => exact ⟨[], .nil, by rw [memberValues]⟩
  | cons entry entries ih =>
    obtain ⟨hentry, hentries⟩ := List.forall_mem_cons.mp h
    obtain ⟨scan, hscan, hfound⟩ := hentry
    obtain ⟨scanned, hscanned, hlater⟩ := ih hentries
    refine ⟨(some entry.1, scan) :: scanned, .cons ⟨rfl, hscan⟩ hscanned, ?_⟩
    rw [memberValues, hfound, hlater]
    rfl

/-- A plain value is read back as it was written. -/
theorem reads_value (h : found.IsPlain levels) : Reads (value levels) found found := by
  induction h with
  | null => exact ⟨_, readsBack_null, by rw [value]⟩
  | bool b => exact ⟨_, readsBack_bool b, by rw [value]⟩
  | integer hn => exact ⟨_, readsBack_integer _, by rw [value, value?_numeralOf hn]; rfl⟩
  | string s => exact ⟨_, readsBack_string s, by rw [value]⟩
  | array _ ih =>
    obtain ⟨scans, hscans, hread⟩ := exists_values ih
    exact ⟨_, readsBack_array hscans, by rw [value, hread]; rfl⟩
  | @table levels table _ ih =>
    obtain ⟨scanned, hscanned, hread⟩ := exists_memberValues ih
    refine ⟨_, readsBack_object hscanned, ?_⟩
    rw [value, hread]
    change Except.ok (Value.object (NameTable.ofList table.entries).entries) = _
    rw [NameTable.ofList_entries]
    rfl

/-! ### Reading -/

mutual

/-- A value of whole numbers that was found in a text is plain. -/
theorem isPlain_of_value {levels : Nat} {scan : Scan} {found : Value}
    (h : value levels scan = .ok found) (hwhole : found.IsWhole) : found.IsPlain levels := by
  match scan with
  | .null =>
    rw [value] at h
    exact Except.ok.inj h ▸ .null
  | .bool b =>
    rw [value] at h
    exact Except.ok.inj h ▸ .bool b
  | .number numeral =>
    rw [value] at h
    split at h
    next n hn =>
      obtain rfl := Except.ok.inj h
      cases hwhole
      exact .integer (isWord_of_value?_eq hn)
    next => exact absurd h (by simp)
  | .string named =>
    cases named with
    | none => exact absurd h (by simp [value])
    | some s =>
      rw [value] at h
      exact Except.ok.inj h ▸ .string s
  | .array items =>
    cases levels with
    | zero => exact absurd h (by simp [value])
    | succ levels =>
      rw [value, map_eq_ok_iff] at h
      obtain ⟨items, hitems, rfl⟩ := h
      cases hwhole with
      | array hwhole =>
        exact .array fun item hitem => isPlain_of_values hitems item hitem (hwhole item hitem)
  | .object members closed =>
    cases levels with
    | zero => exact absurd h (by simp [value])
    | succ levels =>
      rw [value, bind_eq_ok_iff] at h
      obtain ⟨entries, hentries, h⟩ := h
      split at h
      next =>
        obtain rfl := Except.ok.inj h
        cases hwhole with
        | object hwhole =>
          change (Value.ofTable (.ofList entries)).IsPlain _
          refine .table fun entry hentry => ?_
          have hfound := NameTable.mem_of_mem_entries_ofList hentry
          exact isPlain_of_memberValues hentries entry hfound (hwhole entry hentry)
      next => exact absurd h throw_ne_ok
  | .broken => exact absurd h (by simp [value])

theorem isPlain_of_values {levels : Nat} {scans : List Scan} {items : List Value}
    (h : values levels scans = .ok items) :
    ∀ item ∈ items, item.IsWhole → item.IsPlain levels := by
  match scans with
  | [] =>
    rw [values] at h
    obtain rfl := Except.ok.inj h
    exact fun item hitem => absurd hitem List.not_mem_nil
  | scan :: scans =>
    rw [values] at h
    obtain ⟨first, hfirst, h⟩ := bind_eq_ok_iff.mp h
    obtain ⟨later, hlater, h⟩ := bind_eq_ok_iff.mp h
    obtain rfl := Except.ok.inj h
    exact List.forall_mem_cons.mpr ⟨isPlain_of_value hfirst, isPlain_of_values hlater⟩

theorem isPlain_of_memberValues {levels : Nat} {members : List (Option String × Scan)}
    {entries : List (String × Value)} (h : memberValues levels members = .ok entries) :
    ∀ entry ∈ entries, entry.2.IsWhole → entry.2.IsPlain levels := by
  match members with
  | [] =>
    rw [memberValues] at h
    obtain rfl := Except.ok.inj h
    exact fun item hitem => absurd hitem List.not_mem_nil
  | (none, scan) :: members => exact absurd h (by simp [memberValues])
  | (some name, scan) :: members =>
    rw [memberValues] at h
    obtain ⟨first, hfirst, h⟩ := bind_eq_ok_iff.mp h
    obtain ⟨later, hlater, h⟩ := bind_eq_ok_iff.mp h
    obtain rfl := Except.ok.inj h
    exact List.forall_mem_cons.mpr ⟨isPlain_of_value hfirst, isPlain_of_memberValues hlater⟩
end
/-- Only null is read as null. -/
theorem value_eq_ok_null_iff : value levels scan = .ok .null ↔ scan = .null := by
  cases scan with
  | null => simp [value]
  | bool b => simp [value]
  | number numeral =>
    rw [value]
    cases numeral.value? <;> simp
  | string named => cases named <;> simp [value]
  | array scans =>
    have hvalue : value levels (.array scans) ≠ .ok .null := by
      intro h
      obtain ⟨items, hitems⟩ := exists_array_of_value h
      exact absurd hitems (by simp)
    simp [hvalue]
  | object scans closed =>
    have hvalue : value levels (.object scans closed) ≠ .ok .null := by
      intro h
      obtain ⟨members, hmembers⟩ := exists_object_of_value h
      exact absurd hmembers (by simp)
    simp [hvalue]
  | broken => simp [value]

theorem optional_eq_ok_some_iff {α : Type} {decoder : Decoder α} {found : α} :
    optional decoder scan = .ok (some found) ↔ scan ≠ .null ∧ decoder scan = .ok found := by
  unfold optional
  split
  next => simp
  next hnull => simpa [map_eq_ok_iff] using fun _ => hnull

end Decode

end Json

end UploadGate
