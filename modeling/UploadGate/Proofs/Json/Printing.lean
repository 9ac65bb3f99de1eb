import UploadGate.Json.Printer
import UploadGate.Proofs.Json.Scanning

/-! # Reading back what was written

The text of null, a truth value, a string, an integer, or an array or object of such values, spells
a tree, and is read back as that tree. Doubles are left out.
-/

namespace UploadGate.Json

/-! ## Strings -/

/-- The two hexadecimal digits of a number below 32 denote it. -/
theorem valueIn_hexDigit : ∀ n < 0x20,
    ['0', '0', hexDigit (n / 16), hexDigit (n % 16)].all Numeral.isHex = true ∧
      Numeral.valueIn 16 ['0', '0', hexDigit (n / 16), hexDigit (n % 16)] = n := by decide

/-- What stands for a character inside a string is a piece that names the character. -/
theorem exists_spellsPiece (c : Char) : ∃ piece, SpellsPiece piece (escapeChar c) ∧
    ∀ {pieces cs}, Names pieces cs → Names (piece :: pieces) (c :: cs) := by
  have hescape : ∀ {letter}, (letter, c) ∈ shortEscapes →
      ∃ piece, SpellsPiece piece ['\\', letter] ∧
        ∀ {pieces cs}, Names pieces cs → Names (piece :: pieces) (c :: cs) :=
    fun h => ⟨.char c, .escape h, .char⟩
  unfold escapeChar
  split_ifs with hquote hbackslash hbackspace hfeed hline hreturn htab hcontrol
  · exact hescape (by simp [hquote, shortEscapes])
  · exact hescape (by simp [hbackslash, shortEscapes])
  · exact hescape (by simp [hbackspace, shortEscapes])
  · exact hescape (by simp [hfeed, shortEscapes])
  · exact hescape (by simp [hline, shortEscapes])
  · exact hescape (by simp [hreturn, shortEscapes])
  · exact hescape (by simp [htab, shortEscapes])
  · obtain ⟨hdigits, hvalue⟩ := valueIn_hexDigit c.toNat hcontrol
    refine ⟨_, .unit (List.all_eq_true.mp hdigits), fun h => ?_⟩
    have hnamed := Names.unit (n := c.toNat) (.inl (by omega)) h
    rwa [Char.ofNat_toNat, ← hvalue] at hnamed
  · exact ⟨.char c, .plain hquote hbackslash (Nat.le_of_not_lt hcontrol), .char⟩

theorem exists_pieces (cs : List Char) : ∃ pieces,
    List.Forall₂ SpellsPiece pieces (cs.map escapeChar) ∧ Names pieces cs := by
  induction cs with
  | nil => exact ⟨[], .nil, .nil⟩
  | cons c cs ih =>
    obtain ⟨piece, hpiece, hnames⟩ := exists_spellsPiece c
    obtain ⟨pieces, hpieces, hnamed⟩ := ih
    exact ⟨piece :: pieces, .cons hpiece hpieces, hnames hnamed⟩

theorem spellsString_printString (s : String) : SpellsString (some s) (printString s) := by
  obtain ⟨pieces, hpieces, hnamed⟩ := exists_pieces s.toList
  refine .quoted hpieces fun t => ?_
  rw [← assemble_eq_some_iff, assemble_of_names hnamed, Option.some.injEq, Option.some.injEq,
    String.toList_inj]

/-! ## Values -/

/-- The text of a value spells a tree. -/
def ReadsBack (value : Value) (scan : Scan) : Prop := Spells (.value scan) (print value)

theorem readsBack_null : ReadsBack .null .null := .nullWord

theorem readsBack_bool (b : Bool) : ReadsBack (.bool b) (.bool b) := by
  cases b with
  | true => exact .trueWord
  | false => exact .falseWord

theorem readsBack_string (s : String) : ReadsBack (.string s) (.string (some s)) :=
  .string (spellsString_printString s)

/-- The numeral that is written for an integer. -/
def numeralOf (n : Int) : Numeral := ⟨n < 0, UploadGate.Numeral.ofNat n.natAbs, none, none⟩

theorem isWhole_ofNat (n : Nat) : IsWhole (UploadGate.Numeral.ofNat n) := by
  refine ⟨UploadGate.Numeral.isRun_ofNat n, ?_⟩
  induction n using UploadGate.Numeral.ofNat.induct with
  | case1 n h =>
    rw [UploadGate.Numeral.ofNat, if_pos h]
    intro hzero
    rw [Option.some.inj hzero]
  | case2 n h ih =>
    have hne := (UploadGate.Numeral.isRun_ofNat (n / 10)).1
    rw [UploadGate.Numeral.ofNat, if_neg h, List.head?_append_of_ne_nil _ hne]
    intro hzero
    -- The digits of a number above nine are not those of zero.
    have hvalue := UploadGate.Numeral.value_ofNat (n / 10)
    rw [ih hzero] at hvalue
    change 0 = n / 10 at hvalue
    omega

theorem readsBack_integer (n : Int) : ReadsBack (.integer n) (.number (numeralOf n)) := by
  have hdigits := SpellsNumeral.unsigned (isWhole_ofNat n.natAbs) .none .none
  rw [List.append_nil, List.append_nil] at hdigits
  change Spells _ (UploadGate.Numeral.ofInt n)
  unfold UploadGate.Numeral.ofInt numeralOf
  split
  next h =>
    rw [decide_eq_true h]
    exact .number (.minus hdigits)
  next h =>
    rw [decide_eq_false h]
    exact .number hdigits

/-! ### Arrays -/

theorem isSpacing_nil : IsSpacing [] := fun _ hc => absurd hc List.not_mem_nil

variable {value : Value} {scan : Scan} {items : List Value} {scans : List Scan}

/-- A value by itself is an element without white space. -/
theorem Spells.element_self {cs : List Char} (h : Spells (.value scan) cs) :
    Spells (.element scan) cs := by
  simpa using Spells.element isSpacing_nil h isSpacing_nil

theorem exists_items (h : ReadsBack value scan) (hitems : List.Forall₂ ReadsBack items scans) :
    ∃ text, print value ++ printItems items = text ++ [']'] ∧
      Spells (.items (scan :: scans)) text := by
  induction hitems generalizing value scan with
  | nil => exact ⟨_, rfl, .lastItem h.element_self⟩
  | cons hnext _ ih =>
    obtain ⟨text, htext, hspelled⟩ := ih hnext
    refine ⟨_, ?_, .item h.element_self hspelled⟩
    rw [printItems, List.cons_append, htext]
    simp

theorem readsBack_array (h : List.Forall₂ ReadsBack items scans) :
    ReadsBack (.array items) (.array scans) := by
  cases h with
  | nil => exact .emptyArray isSpacing_nil
  | @cons item scan items scans hitem hitems =>
    obtain ⟨text, htext, hspelled⟩ := exists_items hitem hitems
    rw [ReadsBack, print, List.cons_append, htext]
    exact .array hspelled

/-! ### Objects -/

/-- A member is read under its own name, and its value is read back. -/
structure MemberReadsBack (member : String × Value) (scanned : Option String × Scan) : Prop where
  name : scanned.1 = some member.1
  value : ReadsBack member.2 scanned.2

variable {member : String × Value} {scanned : Option String × Scan}
  {members : List (String × Value)} {found : List (Option String × Scan)}

theorem spells_name_printString (s : String) : Spells (.name (some s)) (printString s) := by
  simpa using Spells.name isSpacing_nil (spellsString_printString s) isSpacing_nil

def printMember (member : String × Value) : List Char :=
  printString member.1 ++ ':' :: print member.2

theorem exists_members (h : MemberReadsBack member scanned)
    (hmembers : List.Forall₂ MemberReadsBack members found) :
    ∃ text, printMember member ++ printMembers members = text ++ ['}'] ∧
      Spells (.members (scanned :: found)) text := by
  induction hmembers generalizing member scanned with
  | nil =>
    obtain ⟨name, scan⟩ := scanned
    obtain ⟨rfl, hvalue⟩ := h
    exact ⟨_, rfl, .lastMember (spells_name_printString _) hvalue.element_self⟩
  | @cons next _ later _ hnext _ ih =>
    obtain ⟨name, scan⟩ := scanned
    obtain ⟨rfl, hvalue⟩ := h
    obtain ⟨text, htext, hspelled⟩ := ih hnext
    have hprint : printMembers (next :: later) =
        ',' :: (printMember next ++ printMembers later) := by simp [printMembers, printMember]
    refine ⟨_, ?_, .member (spells_name_printString _) hvalue.element_self hspelled⟩
    rw [hprint, htext, printMember]
    simp

theorem readsBack_object (h : List.Forall₂ MemberReadsBack members found) :
    ReadsBack (.object members) (.object found true) := by
  cases h with
  | nil => exact .emptyObject isSpacing_nil
  | @cons member scanned members found hmember hmembers =>
    obtain ⟨text, htext, hspelled⟩ := exists_members hmember hmembers
    have hprint : print (.object (member :: members)) =
        '{' :: (printMember member ++ printMembers members) := by simp [print, printMember]
    rw [ReadsBack, hprint, htext]
    exact .object hspelled

/-! ## Whole texts -/

/-- A text that was written for a value spells what the value reads back as, and nothing else. -/
theorem ofText_text (h : ReadsBack value scan) : Scan.ofText value.text = (scan, false) := by
  rw [ofText_eq_iff, Value.text, String.toList_ofList]
  exact h.element_self

end UploadGate.Json
