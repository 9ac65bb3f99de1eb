import UploadGate.Proofs.Json.Lexemes

/-! # The scanner reads the grammar

What a whole text spells by itself is what the scanner reads from it: every text of the grammar is
read as its tree, and every tree that is read, with nothing left behind it, is spelled by the text.
-/

namespace UploadGate.Json

variable {scan : Scan} {cs rest : List Char} {fuel : Nat}

/-! ## White space -/

theorem isSpace_iff {c : Char} : Scan.isSpace c = true ↔ c ∈ [' ', '\t', '\n', '\r'] := by
  simp [Scan.isSpace, or_assoc]

theorem skipSpace_cons {c : Char} (h : Scan.isSpace c = false) (cs : List Char) :
    Scan.skipSpace (c :: cs) = c :: cs := by
  rw [Scan.skipSpace, List.dropWhile_cons_of_neg (by simp [h])]

theorem skipSpace_append {space : List Char} (h : IsSpacing space) (cs : List Char) :
    Scan.skipSpace (space ++ cs) = Scan.skipSpace cs :=
  List.dropWhile_append_of_pos fun c hc => isSpace_iff.mpr (h c hc)

theorem exists_spacing (cs : List Char) :
    ∃ space, IsSpacing space ∧ cs = space ++ Scan.skipSpace cs := by
  refine ⟨cs.takeWhile Scan.isSpace, fun c hc => ?_, (List.takeWhile_append_dropWhile ..).symm⟩
  exact isSpace_iff.mp (List.mem_takeWhile_imp hc)

/-! ## First characters -/

theorem value_quote : Scan.value (fuel + 1) ('\"' :: cs) =
    match Scan.readString cs with
    | some (s, rest) => (.string s, some rest)
    | none => (.broken, none) := by
  rw [Scan.value, skipSpace_cons (by decide)]
  rfl

theorem value_bracket_closed (h : Scan.skipSpace cs = ']' :: rest) :
    Scan.value (fuel + 1) ('[' :: cs) = (.array [], some rest) := by
  rw [Scan.value, skipSpace_cons (by decide)]
  simp only [Char.reduceEq, ↓reduceIte, h]

theorem value_bracket_open (h : ∀ rest, Scan.skipSpace cs ≠ ']' :: rest) :
    Scan.value (fuel + 1) ('[' :: cs) =
      (.array (Scan.items fuel cs).1, (Scan.items fuel cs).2) := by
  rw [Scan.value, skipSpace_cons (by decide)]
  simp only [Char.reduceEq, ↓reduceIte]
  rw [Scan.items_skipSpace]

theorem value_brace_closed (h : Scan.skipSpace cs = '}' :: rest) :
    Scan.value (fuel + 1) ('{' :: cs) = (.object [] true, some rest) := by
  rw [Scan.value, skipSpace_cons (by decide)]
  simp only [Char.reduceEq, ↓reduceIte, h]

theorem value_brace_open (h : ∀ rest, Scan.skipSpace cs ≠ '}' :: rest) :
    Scan.value (fuel + 1) ('{' :: cs) =
      (.object (Scan.members fuel cs).1 (Scan.members fuel cs).2.isSome,
        (Scan.members fuel cs).2) := by
  rw [Scan.value, skipSpace_cons (by decide)]
  simp only [Char.reduceEq, ↓reduceIte]
  rw [Scan.members_skipSpace]

/-- What starts with none of these characters can only be a numeral. -/
theorem value_other {c : Char} (hspace : Scan.isSpace c = false)
    (h : c ∉ ['n', 't', 'f', '\"', '[', '{']) : Scan.value (fuel + 1) (c :: cs) =
    match Scan.readNumeral (c :: cs) with
    | some (numeral, rest) => (.number numeral, some rest)
    | none => (.broken, none) := by
  simp only [List.mem_cons, List.not_mem_nil, or_false, not_or] at h
  rw [Scan.value, skipSpace_cons hspace]
  cases hread : Scan.readNumeral (c :: cs) <;> simp only [h, hread, ↓reduceIte]

/-! ## Texts of the grammar are read -/

/-- A numeral starts with a minus or a digit. -/
theorem SpellsNumeral.exists_cons {numeral : Numeral} (h : SpellsNumeral numeral cs) :
    ∃ c later, cs = c :: later ∧ (c = '-' ∨ c.isDigit = true) := by
  cases h with
  | unsigned hwhole =>
    obtain ⟨c, later, rfl⟩ := List.exists_cons_of_ne_nil hwhole.isRun.1
    exact ⟨c, _, rfl, .inr (hwhole.isRun.2 c List.mem_cons_self)⟩
  | minus => exact ⟨_, _, rfl, .inl rfl⟩

/-- What starts a numeral starts nothing else. -/
theorem plain_of_starts_numeral {c : Char} (h : c = '-' ∨ c.isDigit = true) :
    Scan.isSpace c = false ∧ c ∉ [']', 'n', 't', 'f', '\"', '[', '{'] := by
  -- A quantifier over characters would be decided for all of them.
  have hall : ([' ', '\t', '\n', '\r'] ++ [']', 'n', 't', 'f', '\"', '[', '{']).all
      (fun d => !(d == '-' || d.isDigit)) = true := by decide
  have hothers : c ∉ [' ', '\t', '\n', '\r'] ++ [']', 'n', 't', 'f', '\"', '[', '{'] := by
    intro hc
    have hplain := List.all_eq_true.mp hall c hc
    rcases h with rfl | hdigit
    · exact absurd hplain (by decide)
    · rw [hdigit, Bool.or_true] at hplain
      exact absurd hplain (by decide)
  refine ⟨?_, fun hc => hothers (List.mem_append_right _ hc)⟩
  rw [Bool.eq_false_iff, Ne, isSpace_iff]
  exact fun hc => hothers (List.mem_append_left _ hc)

theorem SpellsString.exists_cons {named : Option String} (h : SpellsString named cs) :
    ∃ later, cs = '\"' :: later := by
  cases h
  exact ⟨_, rfl⟩

/-- A value starts neither with white space nor with what closes an array. -/
theorem Spells.exists_cons (h : Spells (.value scan) cs) :
    ∃ c later, cs = c :: later ∧ Scan.isSpace c = false ∧ c ≠ ']' := by
  cases h with
  | nullWord => exact ⟨_, _, rfl, by decide, by decide⟩
  | trueWord => exact ⟨_, _, rfl, by decide, by decide⟩
  | falseWord => exact ⟨_, _, rfl, by decide, by decide⟩
  | number h =>
    obtain ⟨c, later, rfl, hc⟩ := h.exists_cons
    obtain ⟨hspace, hothers⟩ := plain_of_starts_numeral hc
    exact ⟨c, later, rfl, hspace, List.ne_of_not_mem_cons hothers⟩
  | string h =>
    obtain ⟨later, rfl⟩ := h.exists_cons
    exact ⟨_, _, rfl, by decide, by decide⟩
  | emptyArray => exact ⟨_, _, rfl, by decide, by decide⟩
  | array => exact ⟨_, _, rfl, by decide, by decide⟩
  | emptyObject => exact ⟨_, _, rfl, by decide, by decide⟩
  | object => exact ⟨_, _, rfl, by decide, by decide⟩

theorem Spells.skipSpace_element (h : Spells (.element scan) cs) (rest : List Char) :
    ∃ c later, Scan.skipSpace (cs ++ rest) = c :: later ∧ c ≠ ']' := by
  cases h with
  | element hfront h hback =>
    obtain ⟨c, later, rfl, hspace, hbracket⟩ := h.exists_cons
    rw [List.append_assoc, skipSpace_append hfront, List.append_assoc, List.cons_append,
      skipSpace_cons hspace]
    exact ⟨c, _, rfl, hbracket⟩

theorem Spells.skipSpace_items {scans : List Scan} (h : Spells (.items scans) cs)
    (rest : List Char) :
    ∃ c later, Scan.skipSpace (cs ++ rest) = c :: later ∧ c ≠ ']' := by
  cases h with
  | lastItem h => exact h.skipSpace_element rest
  | item h =>
    rw [List.append_assoc]
    exact h.skipSpace_element _

/-- How a part of a text is read in front of other text. Each character may need two units of fuel,
as an array or an object takes up one for itself and one for what it holds. -/
def Part.IsReadFrom : Part → List Char → Prop
  | .value scan, cs => ∀ fuel rest, 2 * cs.length ≤ fuel → Shuns continuesNumeral rest →
      Scan.value fuel (cs ++ rest) = (scan, some rest)
  | .element scan, cs => ∀ fuel rest, 2 * cs.length ≤ fuel → Shuns continuesNumeral rest →
      ∃ space, IsSpacing space ∧ Scan.value fuel (cs ++ rest) = (scan, some (space ++ rest))
  | .items scans, cs => ∀ fuel rest, 2 * cs.length < fuel →
      Scan.items fuel (cs ++ ']' :: rest) = (scans, some rest)
  | .name named, cs => ∀ rest, ∃ text space, Scan.skipSpace (cs ++ rest) = '\"' :: text ∧
      IsSpacing space ∧ Scan.readString text = some (named, space ++ rest)
  | .members scans, cs => ∀ fuel rest, 2 * cs.length < fuel →
      Scan.members fuel (cs ++ '}' :: rest) = (scans, some rest)

theorem value_numeral {numeral : Numeral} (h : SpellsNumeral numeral cs)
    (hrest : Shuns continuesNumeral rest) :
    Scan.value (fuel + 1) (cs ++ rest) = (.number numeral, some rest) := by
  have hread := readNumeral_append h hrest
  obtain ⟨c, later, rfl, hc⟩ := h.exists_cons
  obtain ⟨hspace, hothers⟩ := plain_of_starts_numeral hc
  rw [List.cons_append] at hread ⊢
  rw [value_other hspace (List.not_mem_of_not_mem_cons hothers), hread]

theorem value_string {named : Option String} (h : SpellsString named cs) :
    Scan.value (fuel + 1) (cs ++ rest) = (.string named, some rest) := by
  obtain ⟨later, rfl⟩ := h.exists_cons
  have hread : Scan.readString (later ++ rest) = some (named, rest) :=
    readString_eq_some_iff.mpr ⟨_, h, List.cons_append⟩
  rw [List.cons_append, value_quote, hread]

theorem shuns_cons {c : Char} (h : continuesNumeral c = false) (cs : List Char) :
    Shuns continuesNumeral (c :: cs) := by
  intro d hd
  rwa [← Option.some.inj hd]

theorem shuns_spacing {space : List Char} (h : IsSpacing space)
    (hrest : Shuns continuesNumeral rest) : Shuns continuesNumeral (space ++ rest) := by
  have hall : [' ', '\t', '\n', '\r'].all (fun d => !continuesNumeral d) = true := by decide
  cases space with
  | nil => exact hrest
  | cons c space =>
    have hplain := List.all_eq_true.mp hall c (h c List.mem_cons_self)
    exact shuns_cons (by simpa using hplain) _

/-- What follows an item or a member is looked at after white space. -/
theorem skipSpace_spacing_cons {space : List Char} {c : Char} (h : IsSpacing space)
    (hc : Scan.isSpace c = false) (cs : List Char) :
    Scan.skipSpace (space ++ c :: cs) = c :: cs := by
  rw [skipSpace_append h, skipSpace_cons hc]

theorem isReadFrom_value (hne : cs ≠ [])
    (h : ∀ fuel rest, 2 * cs.length ≤ fuel + 1 → Shuns continuesNumeral rest →
      Scan.value (fuel + 1) (cs ++ rest) = (scan, some rest)) :
    (Part.value scan).IsReadFrom cs := by
  intro fuel rest hfuel hrest
  have hlength := List.length_pos_iff.mpr hne
  obtain ⟨fuel, rfl⟩ : ∃ less, fuel = less + 1 := Nat.exists_eq_add_one.mpr (by omega)
  exact h fuel rest hfuel hrest

variable {scans : List Scan} {later : List Char}

theorem isReadFrom_array (h : (Part.items scans).IsReadFrom cs)
    (hopen : ∀ rest, ∃ c later, Scan.skipSpace (cs ++ rest) = c :: later ∧ c ≠ ']') :
    (Part.value (.array scans)).IsReadFrom ('[' :: (cs ++ [']'])) := by
  apply isReadFrom_value (List.cons_ne_nil _ _)
  intro fuel rest hfuel _
  simp only [List.length_cons, List.length_append, List.length_nil] at hfuel
  rw [List.cons_append, List.append_assoc, List.singleton_append, value_bracket_open,
    h fuel rest (by omega)]
  intro text hclosed
  obtain ⟨c, later, hskip, hc⟩ := hopen (']' :: rest)
  rw [hskip] at hclosed
  exact hc (List.cons.inj hclosed).1

theorem isReadFrom_element {front back : List Char} (hfront : IsSpacing front)
    (h : (Part.value scan).IsReadFrom cs) (hback : IsSpacing back) :
    (Part.element scan).IsReadFrom (front ++ (cs ++ back)) := by
  intro fuel rest hfuel hrest
  simp only [List.length_append] at hfuel
  refine ⟨back, hback, ?_⟩
  rw [← Scan.value_skipSpace, List.append_assoc, skipSpace_append hfront, Scan.value_skipSpace,
    List.append_assoc, h fuel _ (by omega) (shuns_spacing hback hrest)]

theorem isReadFrom_lastItem (h : (Part.element scan).IsReadFrom cs) :
    (Part.items [scan]).IsReadFrom cs := by
  intro fuel rest hfuel
  obtain ⟨fuel, rfl⟩ : ∃ less, fuel = less + 1 := Nat.exists_eq_add_one.mpr (by omega)
  obtain ⟨space, hspace, hvalue⟩ := h fuel (']' :: rest) (by omega) (shuns_cons (by decide) _)
  have hbracket := skipSpace_spacing_cons hspace (by decide : Scan.isSpace ']' = false)
  simp only [Scan.items, hvalue, hbracket]

theorem isReadFrom_item (h : (Part.element scan).IsReadFrom cs)
    (hlater : (Part.items scans).IsReadFrom later) :
    (Part.items (scan :: scans)).IsReadFrom (cs ++ ',' :: later) := by
  intro fuel rest hfuel
  simp only [List.length_append, List.length_cons] at hfuel
  obtain ⟨fuel, rfl⟩ : ∃ less, fuel = less + 1 := Nat.exists_eq_add_one.mpr (by omega)
  obtain ⟨space, hspace, hvalue⟩ := h fuel (',' :: (later ++ ']' :: rest)) (by omega)
    (shuns_cons (by decide) _)
  have hcomma := skipSpace_spacing_cons hspace (by decide : Scan.isSpace ',' = false)
  rw [List.append_assoc, List.cons_append]
  simp only [Scan.items, hvalue, hcomma, hlater fuel rest (by omega)]

variable {named : Option String} {ns : List Char} {members : List (Option String × Scan)}

theorem isReadFrom_name {front back : List Char} (hfront : IsSpacing front)
    (h : SpellsString named cs) (hback : IsSpacing back) :
    (Part.name named).IsReadFrom (front ++ (cs ++ back)) := by
  intro rest
  obtain ⟨later, rfl⟩ := h.exists_cons
  refine ⟨later ++ (back ++ rest), back, ?_, hback, ?_⟩
  · rw [List.append_assoc, skipSpace_append hfront, List.append_assoc, List.cons_append,
      skipSpace_cons (by decide)]
  · exact readString_eq_some_iff.mpr ⟨_, h, List.cons_append⟩

theorem isReadFrom_lastMember (hname : (Part.name named).IsReadFrom ns)
    (h : (Part.element scan).IsReadFrom cs) :
    (Part.members [(named, scan)]).IsReadFrom (ns ++ ':' :: cs) := by
  intro fuel rest hfuel
  simp only [List.length_append, List.length_cons] at hfuel
  obtain ⟨fuel, rfl⟩ : ∃ less, fuel = less + 1 := Nat.exists_eq_add_one.mpr (by omega)
  obtain ⟨text, afterName, hquote, hafterName, hread⟩ := hname (':' :: (cs ++ '}' :: rest))
  obtain ⟨space, hspace, hvalue⟩ := h fuel ('}' :: rest) (by omega) (shuns_cons (by decide) _)
  have hcolon := skipSpace_spacing_cons hafterName (by decide : Scan.isSpace ':' = false)
  have hbrace := skipSpace_spacing_cons hspace (by decide : Scan.isSpace '}' = false)
  rw [List.append_assoc, List.cons_append]
  simp only [Scan.members, hquote, hread, hcolon, hvalue, hbrace]

theorem isReadFrom_member (hname : (Part.name named).IsReadFrom ns)
    (h : (Part.element scan).IsReadFrom cs) (hlater : (Part.members members).IsReadFrom later) :
    (Part.members ((named, scan) :: members)).IsReadFrom (ns ++ ':' :: (cs ++ ',' :: later)) := by
  intro fuel rest hfuel
  simp only [List.length_append, List.length_cons] at hfuel
  obtain ⟨fuel, rfl⟩ : ∃ less, fuel = less + 1 := Nat.exists_eq_add_one.mpr (by omega)
  obtain ⟨text, afterName, hquote, hafterName, hread⟩ :=
    hname (':' :: (cs ++ ',' :: (later ++ '}' :: rest)))
  obtain ⟨space, hspace, hvalue⟩ := h fuel (',' :: (later ++ '}' :: rest)) (by omega)
    (shuns_cons (by decide) _)
  have hcolon := skipSpace_spacing_cons hafterName (by decide : Scan.isSpace ':' = false)
  have hcomma := skipSpace_spacing_cons hspace (by decide : Scan.isSpace ',' = false)
  rw [List.append_assoc, List.cons_append, List.append_assoc, List.cons_append]
  simp only [Scan.members, hquote, hread, hcolon, hvalue, hcomma, hlater fuel rest (by omega)]

theorem isReadFrom_object (h : (Part.members members).IsReadFrom cs)
    (hopen : ∀ rest, ∃ later, Scan.skipSpace (cs ++ rest) = '\"' :: later) :
    (Part.value (.object members true)).IsReadFrom ('{' :: (cs ++ ['}'])) := by
  apply isReadFrom_value (List.cons_ne_nil _ _)
  intro fuel rest hfuel _
  simp only [List.length_cons, List.length_append, List.length_nil] at hfuel
  rw [List.cons_append, List.append_assoc, List.singleton_append, value_brace_open,
    h fuel rest (by omega)]
  · rfl
  · intro text hclosed
    obtain ⟨later, hskip⟩ := hopen ('}' :: rest)
    rw [hskip] at hclosed
    exact absurd (List.cons.inj hclosed).1 (by decide)

theorem Spells.skipSpace_members (h : Spells (.members members) cs) (rest : List Char) :
    ∃ later, Scan.skipSpace (cs ++ rest) = '\"' :: later := by
  have hname : ∀ {named ns}, Spells (.name named) ns → ∀ rest,
      ∃ later, Scan.skipSpace (ns ++ rest) = '\"' :: later := by
    intro named ns hspelled rest
    cases hspelled with
    | name hfront hstring hback =>
      obtain ⟨text, -, hquote, -⟩ := isReadFrom_name hfront hstring hback rest
      exact ⟨text, hquote⟩
  cases h with
  | lastMember hspelled =>
    rw [List.append_assoc]
    exact hname hspelled _
  | member hspelled =>
    rw [List.append_assoc]
    exact hname hspelled _

/-- Every part that the grammar allows is read. -/
theorem Spells.isReadFrom {part : Part} (h : Spells part cs) : part.IsReadFrom cs := by
  induction h with
  | nullWord => exact isReadFrom_value (List.cons_ne_nil _ _) fun _ _ _ _ => rfl
  | trueWord => exact isReadFrom_value (List.cons_ne_nil _ _) fun _ _ _ _ => rfl
  | falseWord => exact isReadFrom_value (List.cons_ne_nil _ _) fun _ _ _ _ => rfl
  | number h =>
    obtain ⟨c, later, hcs, -⟩ := h.exists_cons
    exact isReadFrom_value (hcs ▸ List.cons_ne_nil _ _) fun _ _ _ hrest => value_numeral h hrest
  | string h =>
    obtain ⟨later, hcs⟩ := h.exists_cons
    exact isReadFrom_value (hcs ▸ List.cons_ne_nil _ _) fun _ _ _ _ => value_string h
  | emptyArray hspace =>
    apply isReadFrom_value (List.cons_ne_nil _ _)
    intro fuel rest _ _
    rw [List.cons_append, List.append_assoc]
    exact value_bracket_closed (skipSpace_spacing_cons hspace (by decide) _)
  | array h ih => exact isReadFrom_array ih h.skipSpace_items
  | emptyObject hspace =>
    apply isReadFrom_value (List.cons_ne_nil _ _)
    intro fuel rest _ _
    rw [List.cons_append, List.append_assoc]
    exact value_brace_closed (skipSpace_spacing_cons hspace (by decide) _)
  | object h ih => exact isReadFrom_object ih h.skipSpace_members
  | element hfront _ hback ih => exact isReadFrom_element hfront ih hback
  | lastItem _ ih => exact isReadFrom_lastItem ih
  | item _ _ ih ihlater => exact isReadFrom_item ih ihlater
  | name hfront h hback => exact isReadFrom_name hfront h hback
  | lastMember _ _ ihname ih => exact isReadFrom_lastMember ihname ih
  | member _ _ _ ihname ih ihlater => exact isReadFrom_member ihname ih ihlater

/-! ## What is read is in the grammar -/

/-- What is read within some fuel is spelled by the text before what is left. -/
structure SoundAt (fuel : Nat) : Prop where
  value : ∀ {cs scan rest}, Scan.value fuel cs = (scan, some rest) →
    ∃ space token, IsSpacing space ∧ Spells (.value scan) token ∧ cs = space ++ (token ++ rest)
  items : ∀ {cs scans rest}, Scan.items fuel cs = (scans, some rest) →
    ∃ text, Spells (.items scans) text ∧ cs = text ++ ']' :: rest
  members : ∀ {cs scans rest}, Scan.members fuel cs = (scans, some rest) →
    ∃ text, Spells (.members scans) text ∧ cs = text ++ '}' :: rest

theorem eq_append_of_word {expected : Scan} {name : String}
    (h : Scan.word expected name cs = (scan, some rest)) :
    scan = expected ∧ cs = name.toList ++ rest := by
  unfold Scan.word Scan.afterWord at h
  split at h
  next text htext =>
    obtain ⟨rfl, hrest⟩ := Prod.mk.inj h
    obtain rfl := Option.some.inj hrest
    rw [Option.ite_none_right_eq_some, List.isPrefixOf_iff_prefix] at htext
    obtain ⟨⟨later, rfl⟩, hdrop⟩ := htext
    refine ⟨rfl, ?_⟩
    rw [← Option.some.inj hdrop, ← String.length_toList, List.drop_left]
  next => exact absurd (Prod.mk.inj h).2 (by simp)

/-- What starts an item, with the white space behind it, is an element. -/
theorem SoundAt.element (h : SoundAt fuel) {text : List Char}
    (hvalue : Scan.value fuel cs = (scan, some text)) :
    ∃ token, Spells (.element scan) token ∧ cs = token ++ Scan.skipSpace text := by
  obtain ⟨front, token, hfront, htoken, rfl⟩ := h.value hvalue
  obtain ⟨back, hback, htext⟩ := exists_spacing text
  refine ⟨_, .element hfront htoken hback, ?_⟩
  rw [List.append_assoc, List.append_assoc, ← htext]

theorem SoundAt.items_succ (h : SoundAt fuel)
    (hread : Scan.items (fuel + 1) cs = (scans, some rest)) :
    ∃ text, Spells (.items scans) text ∧ cs = text ++ ']' :: rest := by
  rw [Scan.items] at hread
  split at hread
  next => exact absurd (Prod.mk.inj hread).2 (by simp)
  next item text hvalue =>
    obtain ⟨token, htoken, rfl⟩ := h.element hvalue
    split at hread
    next after hcomma =>
      obtain ⟨rfl, hrest⟩ := Prod.mk.inj hread
      obtain ⟨later, hlater, rfl⟩ := h.items (Prod.ext rfl hrest)
      refine ⟨_, .item htoken hlater, ?_⟩
      rw [hcomma, List.append_assoc, List.cons_append]
    next after hbracket =>
      obtain ⟨rfl, hrest⟩ := Prod.mk.inj hread
      obtain rfl := Option.some.inj hrest
      exact ⟨_, .lastItem htoken, by rw [hbracket]⟩
    next => exact absurd (Prod.mk.inj hread).2 (by simp)

theorem spells_name_of_readString {text after : List Char}
    (hquote : Scan.skipSpace cs = '\"' :: text)
    (hread : Scan.readString text = some (named, after)) :
    ∃ ns, Spells (.name named) ns ∧ cs = ns ++ Scan.skipSpace after := by
  obtain ⟨front, hfront, hcs⟩ := exists_spacing cs
  obtain ⟨back, hback, hafter⟩ := exists_spacing after
  obtain ⟨token, htoken, htext⟩ := readString_eq_some_iff.mp hread
  refine ⟨_, .name hfront htoken hback, ?_⟩
  rw [List.append_assoc, List.append_assoc, ← hafter, ← htext, ← hquote]
  exact hcs

theorem SoundAt.members_succ (h : SoundAt fuel)
    (hread : Scan.members (fuel + 1) cs = (members, some rest)) :
    ∃ text, Spells (.members members) text ∧ cs = text ++ '}' :: rest := by
  have hbroken : ∀ {found : List (Option String × Scan)},
      (found, none) = (members, some rest) → False := fun h => by simp at h
  rw [Scan.members] at hread
  split at hread
  next text hquote =>
    split at hread
    next => exact (hbroken hread).elim
    next name after hname =>
      obtain ⟨ns, hns, rfl⟩ := spells_name_of_readString hquote hname
      split at hread
      next text hcolon =>
        split at hread
        next => exact (hbroken hread).elim
        next found text' hvalue =>
          obtain ⟨token, htoken, rfl⟩ := h.element hvalue
          split at hread
          next after' hcomma =>
            obtain ⟨rfl, hrest⟩ := Prod.mk.inj hread
            obtain ⟨later, hlater, rfl⟩ := h.members (Prod.ext rfl hrest)
            refine ⟨_, .member hns htoken hlater, ?_⟩
            simp only [hcolon, hcomma, List.append_assoc, List.cons_append]
          next after' hbrace =>
            obtain ⟨rfl, hrest⟩ := Prod.mk.inj hread
            obtain rfl := Option.some.inj hrest
            refine ⟨_, .lastMember hns htoken, ?_⟩
            simp only [hcolon, hbrace, List.append_assoc, List.cons_append]
          next => exact (hbroken hread).elim
      next => exact (hbroken hread).elim
  next => exact (hbroken hread).elim

theorem SoundAt.array_succ (h : SoundAt fuel)
    (hread : Scan.value (fuel + 1) ('[' :: cs) = (scan, some rest)) :
    ∃ token, Spells (.value scan) token ∧ '[' :: cs = token ++ rest := by
  by_cases hclosed : ∃ text, Scan.skipSpace cs = ']' :: text
  · obtain ⟨text, hclosed⟩ := hclosed
    obtain ⟨space, hspace, hcs⟩ := exists_spacing cs
    rw [value_bracket_closed hclosed] at hread
    obtain ⟨rfl, hrest⟩ := Prod.mk.inj hread
    obtain rfl := Option.some.inj hrest
    exact ⟨_, .emptyArray hspace, by rw [hcs, hclosed]; simp⟩
  · rw [value_bracket_open (by simpa using hclosed)] at hread
    obtain ⟨rfl, hrest⟩ := Prod.mk.inj hread
    obtain ⟨text, htext, rfl⟩ := h.items (Prod.ext rfl hrest)
    exact ⟨_, .array htext, by simp⟩

theorem SoundAt.object_succ (h : SoundAt fuel)
    (hread : Scan.value (fuel + 1) ('{' :: cs) = (scan, some rest)) :
    ∃ token, Spells (.value scan) token ∧ '{' :: cs = token ++ rest := by
  by_cases hclosed : ∃ text, Scan.skipSpace cs = '}' :: text
  · obtain ⟨text, hclosed⟩ := hclosed
    obtain ⟨space, hspace, hcs⟩ := exists_spacing cs
    rw [value_brace_closed hclosed] at hread
    obtain ⟨rfl, hrest⟩ := Prod.mk.inj hread
    obtain rfl := Option.some.inj hrest
    exact ⟨_, .emptyObject hspace, by rw [hcs, hclosed]; simp⟩
  · rw [value_brace_open (by simpa using hclosed)] at hread
    obtain ⟨rfl, hrest⟩ := Prod.mk.inj hread
    obtain ⟨text, htext, rfl⟩ := h.members (Prod.ext rfl hrest)
    rw [hrest]
    exact ⟨_, .object htext, by simp⟩

/-- A value that starts with another character than an array or an object is read at once. -/
theorem spells_of_leaf {c : Char} (hspace : Scan.isSpace c = false) (hbracket : c ≠ '[')
    (hbrace : c ≠ '{') (hread : Scan.value (fuel + 1) (c :: cs) = (scan, some rest)) :
    ∃ token, Spells (.value scan) token ∧ c :: cs = token ++ rest := by
  rw [Scan.value, skipSpace_cons hspace] at hread
  simp only [hbracket, hbrace, ↓reduceIte] at hread
  split_ifs at hread with hnull htrue hfalse hquote
  · obtain ⟨rfl, htext⟩ := eq_append_of_word hread
    exact ⟨_, .nullWord, htext⟩
  · obtain ⟨rfl, htext⟩ := eq_append_of_word hread
    exact ⟨_, .trueWord, htext⟩
  · obtain ⟨rfl, htext⟩ := eq_append_of_word hread
    exact ⟨_, .falseWord, htext⟩
  · subst hquote
    split at hread
    next named text hstring =>
      obtain ⟨rfl, hrest⟩ := Prod.mk.inj hread
      obtain rfl := Option.some.inj hrest
      obtain ⟨token, htoken, htext⟩ := readString_eq_some_iff.mp hstring
      exact ⟨token, .string htoken, htext⟩
    next => exact absurd (Prod.mk.inj hread).2 (by simp)
  · split at hread
    next numeral text hnumeral =>
      obtain ⟨rfl, hrest⟩ := Prod.mk.inj hread
      obtain rfl := Option.some.inj hrest
      obtain ⟨token, htoken, htext⟩ := spellsNumeral_of_readNumeral hnumeral
      exact ⟨token, .number htoken, htext⟩
    next => exact absurd (Prod.mk.inj hread).2 (by simp)

theorem SoundAt.value_succ (h : SoundAt fuel)
    (hread : Scan.value (fuel + 1) cs = (scan, some rest)) :
    ∃ space token, IsSpacing space ∧ Spells (.value scan) token ∧
      cs = space ++ (token ++ rest) := by
  obtain ⟨space, hspace, hcs⟩ := exists_spacing cs
  rw [← Scan.value_skipSpace] at hread
  cases hskip : Scan.skipSpace cs with
  | nil =>
    rw [hskip] at hread
    exact absurd (Prod.mk.inj hread).2 (by simp)
  | cons c later =>
    have hc : Scan.isSpace c = false := Text.head?_dropWhile (by rw [← Scan.skipSpace, hskip]; rfl)
    rw [hskip] at hread
    have htoken : ∃ token, Spells (.value scan) token ∧ c :: later = token ++ rest := by
      by_cases hbracket : c = '['
      · subst hbracket
        exact h.array_succ hread
      · by_cases hbrace : c = '{'
        · subst hbrace
          exact h.object_succ hread
        · exact spells_of_leaf hc hbracket hbrace hread
    obtain ⟨token, hspelled, htext⟩ := htoken
    exact ⟨space, token, hspace, hspelled, by rw [← htext, ← hskip]; exact hcs⟩

theorem soundAt (fuel : Nat) : SoundAt fuel := by
  induction fuel with
  | zero =>
    refine ⟨fun h => ?_, fun h => ?_, fun h => ?_⟩
    · exact absurd (Prod.mk.inj h).2 (by simp)
    · exact absurd (Prod.mk.inj h).2 (by simp)
    · exact absurd (Prod.mk.inj h).2 (by simp)
  | succ fuel ih => exact ⟨ih.value_succ, ih.items_succ, ih.members_succ⟩

/-- A text spells a tree by itself exactly if the tree is what is read from it, with nothing left
behind. -/
theorem ofText_eq_iff {text : String} :
    Scan.ofText text = (scan, false) ↔ Spells (.element scan) text.toList := by
  unfold Scan.ofText
  constructor
  · intro h
    dsimp only at h
    split at h
    next found rest hread =>
      obtain ⟨rfl, hrest⟩ := Prod.mk.inj h
      obtain ⟨token, htoken, htext⟩ := (soundAt _).element hread
      rw [Bool.not_eq_false', List.isEmpty_iff] at hrest
      rw [htext, hrest, List.append_nil]
      exact htoken
    next => exact absurd (Prod.mk.inj h).2 (by simp)
  · intro h
    have hstop : Shuns continuesNumeral [] := fun _ hc => absurd hc (by simp)
    obtain ⟨space, hspace, hread⟩ := h.isReadFrom (2 * text.toList.length + 2) [] (by omega) hstop
    rw [List.append_nil, List.append_nil] at hread
    have hskip : Scan.skipSpace space = [] := by
      have hnil := skipSpace_append hspace []
      rwa [List.append_nil] at hnil
    simp only [hread, hskip]
    rfl

end UploadGate.Json
