import Mathlib.Data.List.Forall2
import Mathlib.Data.List.TakeWhile
import Mathlib.Tactic.Common
import UploadGate.Proofs.Json.Grammar

/-! # Strings and numerals of JSON

A string is read up to its closing quote, and names the text that its pieces name. A numeral is read
as long as it goes on. Both are read from the texts that spell them, and from no others.
-/

namespace UploadGate.Json

open Scan (Piece)
open UploadGate.Numeral (IsRun)

/-! ## Strings -/

section Strings

variable {piece : Piece} {pieces : List Piece} {cs rest : List Char}

theorem mem_shortEscapes_iff {letter c : Char} :
    (letter, c) ∈ shortEscapes ↔ Scan.shortEscape letter = some c := by
  unfold Scan.shortEscape
  split <;> simp_all [shortEscapes, eq_comm]

theorem hexValue_eq_of_lt : ∀ n < 128, Scan.hexValue (Char.ofNat n) =
    if Numeral.isHex (Char.ofNat n) then some (Numeral.hexValue (Char.ofNat n)) else none := by
  decide +kernel

theorem hexValue_eq_some_iff {c : Char} {n : Nat} :
    Scan.hexValue c = some n ↔ Numeral.isHex c = true ∧ n = Numeral.hexValue c := by
  by_cases hc : c.toNat < 128
  · have h := hexValue_eq_of_lt c.toNat hc
    rw [Char.ofNat_toNat] at h
    rw [h, Option.ite_none_right_eq_some, Option.some.injEq, @eq_comm _ n]
  · -- All hexadecimal digits are ASCII characters.
    have hbound : ∀ last : Char, last.toNat < 128 → ¬ c ≤ last := fun last hlast hle =>
      hc (Nat.lt_of_le_of_lt hle hlast)
    have hdigit : c.isDigit = false := by
      rw [Char.isDigit, Bool.and_eq_false_iff]
      exact .inr (decide_eq_false (hbound '9' (by decide)))
    simp [Scan.hexValue, Numeral.isHex, hdigit, hbound '9' (by decide), hbound 'f' (by decide),
      hbound 'F' (by decide)]

theorem hexNumber_eq_some_iff {a b c d : Char} {n : Nat} :
    Scan.hexNumber a b c d = some n ↔
      (∀ digit ∈ [a, b, c, d], Numeral.isHex digit = true) ∧
        n = Numeral.valueIn 16 [a, b, c, d] := by
  simp only [Scan.hexNumber, Option.pure_def, Option.bind_eq_bind, Option.bind_eq_some_iff,
    hexValue_eq_some_iff, Option.some.injEq]
  constructor
  · rintro ⟨_, ⟨ha, rfl⟩, _, ⟨hb, rfl⟩, _, ⟨hc, rfl⟩, _, ⟨hd, rfl⟩, rfl⟩
    refine ⟨by simp [ha, hb, hc, hd], ?_⟩
    simp only [Numeral.valueIn, List.foldl_cons, List.foldl_nil]
    omega
  · rintro ⟨hdigits, rfl⟩
    simp only [List.mem_cons, List.not_mem_nil, or_false, forall_eq_or_imp, forall_eq] at hdigits
    obtain ⟨ha, hb, hc, hd⟩ := hdigits
    refine ⟨_, ⟨ha, rfl⟩, _, ⟨hb, rfl⟩, _, ⟨hc, rfl⟩, _, ⟨hd, rfl⟩, ?_⟩
    simp only [Numeral.valueIn, List.foldl_cons, List.foldl_nil]
    omega

/-- A piece is read from what spells it, whatever follows. -/
theorem SpellsPiece.pieces_append (h : SpellsPiece piece cs) (rest : List Char) :
    Scan.pieces (cs ++ rest) =
      (Scan.pieces rest).map fun found => (piece :: found.1, found.2) := by
  cases h with
  | @plain c hquote hbackslash hcontrol =>
    rw [List.singleton_append, Scan.pieces.eq_5]
    · rw [if_neg (by simp [hbackslash, hcontrol])]
    · exact hquote
    · intro a b c d rest h
      exact absurd h hbackslash
    · intro letter rest h
      exact absurd h hbackslash
  | @escape letter c h =>
    have hletter : letter ≠ 'u' := by
      rintro rfl
      exact absurd h (by simp [shortEscapes])
    rw [List.cons_append, List.singleton_append, Scan.pieces.eq_4]
    · rw [mem_shortEscapes_iff.mp h]
      cases Scan.pieces rest <;> rfl
    · intro a b c d rest hunit
      exact absurd hunit hletter
  | unit h =>
    simp only [List.cons_append, List.nil_append]
    rw [Scan.pieces, hexNumber_eq_some_iff.mpr ⟨h, rfl⟩]
    cases Scan.pieces rest <;> rfl

theorem pieces_flatten {parts : List (List Char)} (h : List.Forall₂ SpellsPiece pieces parts) :
    Scan.pieces (parts.flatten ++ '\"' :: rest) = some (pieces, rest) := by
  induction h with
  | nil => exact Scan.pieces_quote rest
  | cons hfirst _ ih => rw [List.flatten_cons, List.append_assoc, hfirst.pieces_append, ih]; rfl

theorem exists_parts_of_pieces (h : Scan.pieces cs = some (pieces, rest)) :
    ∃ parts, List.Forall₂ SpellsPiece pieces parts ∧ cs = parts.flatten ++ '\"' :: rest := by
  fun_induction Scan.pieces cs generalizing pieces rest with
  | case1 => exact absurd h (by simp)
  | case2 rest =>
    obtain ⟨rfl, rfl⟩ := Prod.mk.inj (Option.some.inj h)
    exact ⟨[], .nil, rfl⟩
  | case3 a b c d text n later text' hn hlater ih =>
    obtain ⟨rfl, rfl⟩ := Prod.mk.inj (Option.some.inj h)
    obtain ⟨hdigits, rfl⟩ := hexNumber_eq_some_iff.mp hlater
    obtain ⟨parts, hparts, rfl⟩ := ih hn
    exact ⟨_ :: parts, .cons (.unit hdigits) hparts, rfl⟩
  | case4 => exact absurd h (by simp)
  | case5 letter text _ c later text' hlater hc ih =>
    obtain ⟨rfl, rfl⟩ := Prod.mk.inj (Option.some.inj h)
    obtain ⟨parts, hparts, rfl⟩ := ih hlater
    exact ⟨_ :: parts, .cons (.escape (mem_shortEscapes_iff.mpr hc)) hparts, rfl⟩
  | case6 => exact absurd h (by simp)
  | case7 => exact absurd h (by simp)
  | case8 c text hquote _ _ hplain ih =>
    obtain ⟨⟨later, text'⟩, hlater, hfound⟩ := Option.map_eq_some_iff.mp h
    obtain ⟨rfl, rfl⟩ := Prod.mk.inj hfound
    obtain ⟨parts, hparts, rfl⟩ := ih hlater
    have hspelled : SpellsPiece (.char c) [c] :=
      .plain hquote (fun hc => hplain (.inl hc)) (Nat.le_of_not_lt fun hc => hplain (.inr hc))
    exact ⟨_ :: parts, .cons hspelled hparts, rfl⟩

theorem isHighSurrogate_iff {n : Nat} :
    Scan.isHighSurrogate n = true ↔ 0xD800 ≤ n ∧ n < 0xDC00 := by
  simp [Scan.isHighSurrogate]

theorem isLowSurrogate_iff {n : Nat} :
    Scan.isLowSurrogate n = true ↔ 0xDC00 ≤ n ∧ n < 0xE000 := by
  simp [Scan.isLowSurrogate]

theorem isSurrogate_iff {n : Nat} :
    (Scan.isHighSurrogate n || Scan.isLowSurrogate n) = true ↔ ¬ (n < 0xD800 ∨ 0xE000 ≤ n) := by
  rw [Bool.or_eq_true, isHighSurrogate_iff, isLowSurrogate_iff]
  omega

/-- A unit that is no surrogate is a character by itself, whatever comes next. -/
theorem assemble_unit {n : Nat} (hn : n < 0xD800 ∨ 0xE000 ≤ n) (later : List Piece) :
    Scan.assemble (.unit n :: later) = (Scan.assemble later).map (Char.ofNat n :: ·) := by
  have hsurrogate := Bool.not_eq_true _ ▸ isSurrogate_iff.not_left.mpr hn
  obtain ⟨hhigh, hlow⟩ := Bool.or_eq_false_iff.mp hsurrogate
  cases later with
  | nil => simp [Scan.assemble, hhigh, hlow]
  | cons piece later => cases piece <;> simp [Scan.assemble, hhigh, hlow]

theorem assemble_of_names (h : Names pieces cs) : Scan.assemble pieces = some cs := by
  induction h with
  | nil => rfl
  | char _ ih => rw [Scan.assemble_char, ih]; rfl
  | unit hn _ ih => rw [assemble_unit hn, ih]; rfl
  | pair hhigh hlow _ ih =>
    rw [Scan.assemble, isHighSurrogate_iff.mpr hhigh, isLowSurrogate_iff.mpr hlow, ih]
    rfl

theorem names_of_assemble (h : Scan.assemble pieces = some cs) : Names pieces cs := by
  fun_induction Scan.assemble pieces generalizing cs with
  | case1 =>
    obtain rfl := Option.some.inj h
    exact .nil
  | case2 c later ih =>
    obtain ⟨found, hfound, rfl⟩ := Option.map_eq_some_iff.mp h
    exact .char (ih hfound)
  | case3 high low later hpair ih =>
    obtain ⟨found, hfound, rfl⟩ := Option.map_eq_some_iff.mp h
    rw [Bool.and_eq_true, isHighSurrogate_iff, isLowSurrogate_iff] at hpair
    exact .pair hpair.1 hpair.2 (ih hfound)
  | case4 => exact absurd h (by simp)
  | case5 high low later _ hscalar ih =>
    obtain ⟨found, hfound, rfl⟩ := Option.map_eq_some_iff.mp h
    exact .unit (isSurrogate_iff.not_left.mp hscalar) (ih hfound)
  | case6 => exact absurd h (by simp)
  | case7 n later _ hscalar ih =>
    obtain ⟨found, hfound, rfl⟩ := Option.map_eq_some_iff.mp h
    exact .unit (isSurrogate_iff.not_left.mp hscalar) (ih hfound)

/-- The characters that pieces are put together to are those that they name. -/
theorem assemble_eq_some_iff : Scan.assemble pieces = some cs ↔ Names pieces cs :=
  ⟨names_of_assemble, assemble_of_names⟩

variable {named : Option String}

theorem map_assemble_eq_iff :
    (Scan.assemble pieces).map String.ofList = named ↔
      ∀ s, named = some s ↔ Names pieces s.toList := by
  have hnamed : ∀ s, (Scan.assemble pieces).map String.ofList = some s ↔
      Names pieces s.toList := by
    intro s
    rw [← assemble_eq_some_iff, Option.map_eq_some_iff]
    constructor
    · rintro ⟨cs, hcs, rfl⟩
      rw [hcs, String.toList_ofList]
    · intro h
      exact ⟨_, h, String.ofList_toList⟩
  constructor
  · rintro rfl
    exact hnamed
  · intro h
    ext s
    rw [hnamed, h]

/-- A string is read up to its closing quote. -/
theorem readString_eq_some_iff :
    Scan.readString cs = some (named, rest) ↔
      ∃ token, SpellsString named token ∧ '\"' :: cs = token ++ rest := by
  rw [Scan.readString, Option.map_eq_some_iff]
  constructor
  · rintro ⟨⟨pieces, text⟩, hpieces, hfound⟩
    obtain ⟨hnamed, rfl⟩ := Prod.mk.inj hfound
    obtain ⟨parts, hparts, rfl⟩ := exists_parts_of_pieces hpieces
    exact ⟨_, .quoted hparts (map_assemble_eq_iff.mp hnamed), by simp⟩
  · rintro ⟨token, ⟨hparts, hnamed⟩, htext⟩
    rw [List.cons_append, List.append_assoc, List.singleton_append] at htext
    refine ⟨_, (List.cons.inj htext).2 ▸ pieces_flatten hparts, ?_⟩
    rw [Prod.mk.injEq]
    exact ⟨map_assemble_eq_iff.mpr hnamed, rfl⟩

end Strings

/-! ## Numerals -/

section Numerals

variable {cs rest digits : List Char}

/-- A text that does not start with a character of some kind. -/
def Shuns (p : Char → Bool) (cs : List Char) : Prop := ∀ c, cs.head? = some c → p c = false

/-- The characters by which a numeral could go on. -/
def continuesNumeral (c : Char) : Bool := c.isDigit || c == '.' || c == 'e' || c == 'E'

theorem takeDigits_append (hdigits : ∀ c ∈ digits, c.isDigit = true) (h : Shuns Char.isDigit rest) :
    Scan.takeDigits (digits ++ rest) = (digits, rest) := by
  have hstop : rest.takeWhile Char.isDigit = [] ∧ rest.dropWhile Char.isDigit = rest := by
    cases rest with
    | nil => exact ⟨rfl, rfl⟩
    | cons c rest =>
      have hc := h c rfl
      simp [hc]
  rw [Scan.takeDigits, List.takeWhile_append_of_pos hdigits, List.dropWhile_append_of_pos hdigits,
    hstop.1, hstop.2, List.append_nil]

theorem exists_of_takeDigits {found : List Char} (h : Scan.takeDigits cs = (found, rest)) :
    cs = found ++ rest ∧ ∀ c ∈ found, c.isDigit = true := by
  obtain ⟨rfl, rfl⟩ := Prod.mk.inj h
  exact ⟨(List.takeWhile_append_dropWhile ..).symm, fun c hc => List.mem_takeWhile_imp hc⟩

theorem readWhole_append (h : IsWhole digits) (hrest : Shuns Char.isDigit rest) :
    Scan.readWhole (digits ++ rest) = some (digits, rest) := by
  obtain ⟨c, later, rfl⟩ := List.exists_cons_of_ne_nil h.isRun.1
  by_cases hc : c = '0'
  · subst hc
    rw [h.eq_zero rfl, List.singleton_append, Scan.readWhole_zero]
    cases rest with
    | nil => rfl
    | cons c rest => simp [hrest c rfl]
  · rw [List.cons_append, Scan.readWhole_of_ne_zero hc, ← List.cons_append,
      takeDigits_append h.isRun.2 hrest, if_neg (List.cons_ne_nil _ _)]

theorem isWhole_of_readWhole (h : Scan.readWhole cs = some (digits, rest)) :
    IsWhole digits ∧ cs = digits ++ rest := by
  cases cs with
  | nil =>
    have hnone : Scan.readWhole [] = none := rfl
    exact absurd (hnone.symm.trans h) (by simp)
  | cons c cs =>
    by_cases hc : c = '0'
    · subst hc
      rw [Scan.readWhole_zero, Option.ite_none_left_eq_some] at h
      obtain ⟨rfl, rfl⟩ := Prod.mk.inj (Option.some.inj h.2)
      exact ⟨⟨⟨by simp, by simp⟩, fun _ => rfl⟩, rfl⟩
    · rw [Scan.readWhole_of_ne_zero hc, Option.ite_none_left_eq_some] at h
      obtain ⟨hne, htaken⟩ := h
      have hfound := Option.some.inj htaken
      rw [hfound] at hne
      obtain ⟨htext, hdigits⟩ := exists_of_takeDigits hfound
      refine ⟨⟨⟨hne, hdigits⟩, fun hzero => ?_⟩, htext⟩
      obtain ⟨first, later, rfl⟩ := List.exists_cons_of_ne_nil hne
      exact absurd ((List.cons.inj htext).1.trans (Option.some.inj hzero)) hc

theorem readFraction_append {fraction : Option (List Char)} (h : SpellsFraction fraction cs)
    (hrest : Shuns (fun c => c.isDigit || c == '.') rest) :
    Scan.readFraction (cs ++ rest) = some (fraction, rest) := by
  cases h with
  | none =>
    apply Scan.readFraction_of_no_point
    rintro later rfl
    exact absurd (hrest '.' rfl) (by decide)
  | @digits digits h =>
    have hdigits : Shuns Char.isDigit rest := fun c hc => (Bool.or_eq_false_iff.mp (hrest c hc)).1
    rw [List.cons_append, Scan.readFraction, takeDigits_append h.2 hdigits]
    split
    next hnil => exact absurd (Prod.mk.inj hnil).1 h.1
    next hfound =>
      obtain ⟨rfl, rfl⟩ := Prod.mk.inj hfound
      rfl

theorem spellsFraction_of_readFraction {fraction : Option (List Char)}
    (h : Scan.readFraction cs = some (fraction, rest)) :
    ∃ token, SpellsFraction fraction token ∧ cs = token ++ rest := by
  unfold Scan.readFraction at h
  split at h
  next later =>
    split at h
    next => exact absurd h (by simp)
    next found text hne htaken =>
      obtain ⟨rfl, rfl⟩ := Prod.mk.inj (Option.some.inj h)
      obtain ⟨rfl, hdigits⟩ := exists_of_takeDigits htaken
      have hrun : IsRun found := ⟨hne, hdigits⟩
      exact ⟨_, .digits hrun, rfl⟩
  next =>
    obtain ⟨rfl, rfl⟩ := Prod.mk.inj (Option.some.inj h)
    exact ⟨[], .none, rfl⟩

/-- The digits of an exponent, after its mark and its sign. -/
def exponentDigits (negative : Bool) (cs : List Char) :
    Option (Option ExponentPart × List Char) :=
  if (Scan.takeDigits cs).1 = [] then none
  else some (some ⟨negative, (Scan.takeDigits cs).1⟩, (Scan.takeDigits cs).2)

theorem match_takeDigits_eq (negative : Bool) (cs : List Char) :
    (match Scan.takeDigits cs with
      | ([], _) => none
      | (digits, rest) => some (some ⟨negative, digits⟩, rest)) = exponentDigits negative cs := by
  unfold exponentDigits
  split
  next h => rw [h, if_pos rfl]
  next digits rest hne h => rw [h, if_neg hne]

section Mark

variable {mark : Char} (hmark : mark = 'e' ∨ mark = 'E')

include hmark

theorem readExponent_minus :
    Scan.readExponent (mark :: '-' :: cs) = exponentDigits true cs :=
  (if_pos hmark).trans (match_takeDigits_eq true cs)

theorem readExponent_plus :
    Scan.readExponent (mark :: '+' :: cs) = exponentDigits false cs :=
  (if_pos hmark).trans (match_takeDigits_eq false cs)

theorem readExponent_of_unsigned (hminus : ∀ later, cs ≠ '-' :: later)
    (hplus : ∀ later, cs ≠ '+' :: later) :
    Scan.readExponent (mark :: cs) = exponentDigits false cs := by
  refine ((if_pos hmark).trans (match_takeDigits_eq _ _)).trans ?_
  split
  next later => exact absurd rfl (hminus later)
  next later => exact absurd rfl (hplus later)
  next => rfl

end Mark

theorem readExponent_of_no_mark {c : Char} (h : ¬ (c = 'e' ∨ c = 'E')) :
    Scan.readExponent (c :: cs) = some (none, c :: cs) := if_neg h

theorem exponentDigits_append (h : IsRun digits) (hrest : Shuns Char.isDigit rest)
    (negative : Bool) :
    exponentDigits negative (digits ++ rest) = some (some ⟨negative, digits⟩, rest) := by
  rw [exponentDigits, takeDigits_append h.2 hrest, if_neg h.1]

theorem isRun_of_exponentDigits {negative : Bool} {exponent : Option ExponentPart}
    (h : exponentDigits negative cs = some (exponent, rest)) :
    ∃ digits, IsRun digits ∧ exponent = some ⟨negative, digits⟩ ∧ cs = digits ++ rest := by
  rw [exponentDigits, Option.ite_none_left_eq_some] at h
  obtain ⟨hne, hfound⟩ := h
  obtain ⟨rfl, rfl⟩ := Prod.mk.inj (Option.some.inj hfound)
  obtain ⟨htext, hdigits⟩ := exists_of_takeDigits rfl
  exact ⟨_, ⟨hne, hdigits⟩, rfl, htext⟩

theorem readExponent_append {exponent : Option ExponentPart} (h : SpellsExponent exponent cs)
    (hrest : Shuns (fun c => c.isDigit || c == 'e' || c == 'E') rest) :
    Scan.readExponent (cs ++ rest) = some (exponent, rest) := by
  have hdigits : Shuns Char.isDigit rest := by
    intro c hc
    have hplain := hrest c hc
    simp only [Bool.or_eq_false_iff] at hplain
    exact hplain.1.1
  cases h with
  | none =>
    cases rest with
    | nil => rfl
    | cons c rest =>
      have hplain := hrest c rfl
      simp only [Bool.or_eq_false_iff, beq_eq_false_iff_ne] at hplain
      exact readExponent_of_no_mark (by simp [hplain])
  | @digits mark digits hmark h =>
    obtain ⟨first, later, rfl⟩ := List.exists_cons_of_ne_nil h.1
    have hunsigned : ∀ sign : Char, sign.isDigit = false →
        ∀ after, first :: later ++ rest ≠ sign :: after := by
      intro sign hsign after heq
      rw [← (List.cons.inj heq).1, h.2 first List.mem_cons_self] at hsign
      exact absurd hsign (by decide)
    rw [List.cons_append, readExponent_of_unsigned hmark (hunsigned '-' rfl) (hunsigned '+' rfl)]
    exact exponentDigits_append h hdigits false
  | plus hmark h => exact (readExponent_plus hmark).trans (exponentDigits_append h hdigits false)
  | minus hmark h => exact (readExponent_minus hmark).trans (exponentDigits_append h hdigits true)

theorem spellsExponent_of_readExponent {exponent : Option ExponentPart}
    (h : Scan.readExponent cs = some (exponent, rest)) :
    ∃ token, SpellsExponent exponent token ∧ cs = token ++ rest := by
  cases cs with
  | nil =>
    obtain ⟨rfl, rfl⟩ := Prod.mk.inj (Option.some.inj h)
    exact ⟨[], .none, rfl⟩
  | cons mark cs =>
    by_cases hmark : mark = 'e' ∨ mark = 'E'
    · by_cases hminus : ∃ later, cs = '-' :: later
      · obtain ⟨later, rfl⟩ := hminus
        rw [readExponent_minus hmark] at h
        obtain ⟨digits, hrun, rfl, rfl⟩ := isRun_of_exponentDigits h
        exact ⟨_, .minus hmark hrun, rfl⟩
      · by_cases hplus : ∃ later, cs = '+' :: later
        · obtain ⟨later, rfl⟩ := hplus
          rw [readExponent_plus hmark] at h
          obtain ⟨digits, hrun, rfl, rfl⟩ := isRun_of_exponentDigits h
          exact ⟨_, .plus hmark hrun, rfl⟩
        · rw [readExponent_of_unsigned hmark (not_exists.mp hminus) (not_exists.mp hplus)] at h
          obtain ⟨digits, hrun, rfl, rfl⟩ := isRun_of_exponentDigits h
          exact ⟨_, .digits hmark hrun, rfl⟩
    · rw [readExponent_of_no_mark hmark] at h
      obtain ⟨rfl, rfl⟩ := Prod.mk.inj (Option.some.inj h)
      exact ⟨[], .none, rfl⟩

/-- The parts of a numeral are read one after another, after its sign. -/
def ReadsParts (numeral : Numeral) (cs rest : List Char) : Prop :=
  ∃ afterWhole afterFraction, Scan.readWhole cs = some (numeral.whole, afterWhole) ∧
    Scan.readFraction afterWhole = some (numeral.fraction, afterFraction) ∧
    Scan.readExponent afterFraction = some (numeral.exponent, rest)

variable {numeral : Numeral}

theorem readParts_eq_some_iff {negative : Bool} :
    (do
      let (whole, cs) ← Scan.readWhole cs
      let (fraction, cs) ← Scan.readFraction cs
      let (exponent, cs) ← Scan.readExponent cs
      return (⟨negative, whole, fraction, exponent⟩, cs)) = some (numeral, rest) ↔
      numeral.negative = negative ∧ ReadsParts numeral cs rest := by
  obtain ⟨sign, whole, fraction, exponent⟩ := numeral
  simp only [Option.bind_eq_bind, Option.bind_eq_some_iff, Prod.exists, Option.pure_def,
    Option.some.injEq, Prod.mk.injEq, ReadsParts, Numeral.mk.injEq]
  constructor
  · rintro ⟨_, afterWhole, hwhole, _, afterFraction, hfraction, _, _, hexponent,
      ⟨rfl, rfl, rfl, rfl⟩, rfl⟩
    exact ⟨rfl, afterWhole, afterFraction, hwhole, hfraction, hexponent⟩
  · rintro ⟨rfl, afterWhole, afterFraction, hwhole, hfraction, hexponent⟩
    exact ⟨_, afterWhole, hwhole, _, afterFraction, hfraction, _, _, hexponent,
      ⟨rfl, rfl, rfl, rfl⟩, rfl⟩

theorem readNumeral_minus_iff : Scan.readNumeral ('-' :: cs) = some (numeral, rest) ↔
    numeral.negative = true ∧ ReadsParts numeral cs rest := by
  rw [Scan.readNumeral.eq_1]
  exact readParts_eq_some_iff

theorem readNumeral_iff_of_unsigned (h : ∀ later, cs ≠ '-' :: later) :
    Scan.readNumeral cs = some (numeral, rest) ↔
      numeral.negative = false ∧ ReadsParts numeral cs rest := by
  rw [Scan.readNumeral.eq_2 cs h]
  exact readParts_eq_some_iff

/-- A text does not start with what it shuns, however much of it is left off at its end. -/
theorem Shuns.append {p : Char → Bool} (h : Shuns p cs) (hrest : Shuns p rest) :
    Shuns p (cs ++ rest) := by
  cases cs with
  | nil => exact hrest
  | cons c cs => exact fun d hd => h d hd

theorem Shuns.mono {p q : Char → Bool} (h : Shuns q cs) (hpq : ∀ c, q c = false → p c = false) :
    Shuns p cs := fun c hc => hpq c (h c hc)

theorem SpellsFraction.shuns_digits {fraction : Option (List Char)}
    (h : SpellsFraction fraction cs) : Shuns Char.isDigit cs := by
  cases h with
  | none => exact fun _ hc => absurd hc (by simp)
  | digits h =>
    intro c hc
    rw [← Option.some.inj hc]
    decide

theorem SpellsExponent.shuns {exponent : Option ExponentPart} (h : SpellsExponent exponent cs) :
    Shuns (fun c => c.isDigit || c == '.') cs := by
  have hmark : ∀ (mark : Char) (cs : List Char), mark = 'e' ∨ mark = 'E' →
      Shuns (fun c => c.isDigit || c == '.') (mark :: cs) := by
    rintro mark cs hmark c hc
    obtain rfl : mark = c := Option.some.inj hc
    rcases hmark with rfl | rfl <;> decide
  cases h with
  | none => exact fun _ hc => absurd hc (by simp)
  | digits h => exact hmark _ _ h
  | plus h => exact hmark _ _ h
  | minus h => exact hmark _ _ h

theorem continuesNumeral_eq_false_iff {c : Char} : continuesNumeral c = false ↔
    ((c.isDigit = false ∧ c ≠ '.') ∧ c ≠ 'e') ∧ c ≠ 'E' := by
  simp only [continuesNumeral, Bool.or_eq_false_iff, beq_eq_false_iff_ne]

theorem readsParts_append {fs es : List Char} (hwhole : IsWhole numeral.whole)
    (hfraction : SpellsFraction numeral.fraction fs)
    (hexponent : SpellsExponent numeral.exponent es) (hrest : Shuns continuesNumeral rest) :
    ReadsParts numeral (numeral.whole ++ (fs ++ es) ++ rest) rest := by
  have hafterExponent : Shuns (fun c => c.isDigit || c == 'e' || c == 'E') rest :=
    hrest.mono fun c hc => by
      simp only [continuesNumeral_eq_false_iff] at hc
      simp [hc]
  have hafterFraction : Shuns (fun c => c.isDigit || c == '.') (es ++ rest) :=
    hexponent.shuns.append (hrest.mono fun c hc => by
      simp only [continuesNumeral_eq_false_iff] at hc
      simp [hc])
  have hafterWhole : Shuns Char.isDigit (fs ++ (es ++ rest)) :=
    hfraction.shuns_digits.append (hafterFraction.mono fun c hc => (Bool.or_eq_false_iff.mp hc).1)
  rw [List.append_assoc, List.append_assoc]
  exact ⟨_, _, readWhole_append hwhole hafterWhole, readFraction_append hfraction hafterFraction,
    readExponent_append hexponent hafterExponent⟩

/-- A numeral is read as long as it goes on. -/
theorem readNumeral_append (h : SpellsNumeral numeral cs) (hrest : Shuns continuesNumeral rest) :
    Scan.readNumeral (cs ++ rest) = some (numeral, rest) := by
  cases h with
  | unsigned hwhole hfraction hexponent =>
    rw [readNumeral_iff_of_unsigned]
    · exact ⟨rfl, readsParts_append hwhole hfraction hexponent hrest⟩
    · obtain ⟨first, later, rfl⟩ := List.exists_cons_of_ne_nil hwhole.isRun.1
      have hfirst := hwhole.isRun.2 first List.mem_cons_self
      intro text htext
      rw [(List.cons.inj htext).1] at hfirst
      exact absurd hfirst (by decide)
  | minus h =>
    cases h with
    | unsigned hwhole hfraction hexponent =>
      rw [List.cons_append, readNumeral_minus_iff]
      exact ⟨rfl, readsParts_append hwhole hfraction hexponent hrest⟩

theorem spellsNumeral_of_readsParts (h : ReadsParts numeral cs rest) :
    ∃ token, SpellsNumeral { numeral with negative := false } token ∧ cs = token ++ rest := by
  obtain ⟨afterWhole, afterFraction, hwhole, hfraction, hexponent⟩ := h
  obtain ⟨hspelled, rfl⟩ := isWhole_of_readWhole hwhole
  obtain ⟨fs, hfs, rfl⟩ := spellsFraction_of_readFraction hfraction
  obtain ⟨es, hes, rfl⟩ := spellsExponent_of_readExponent hexponent
  exact ⟨_, .unsigned hspelled hfs hes, by simp only [List.append_assoc]⟩

theorem spellsNumeral_of_readNumeral (h : Scan.readNumeral cs = some (numeral, rest)) :
    ∃ token, SpellsNumeral numeral token ∧ cs = token ++ rest := by
  obtain ⟨negative, whole, fraction, exponent⟩ := numeral
  by_cases hminus : ∃ later, cs = '-' :: later
  · obtain ⟨later, rfl⟩ := hminus
    obtain ⟨rfl, hparts⟩ := readNumeral_minus_iff.mp h
    obtain ⟨token, htoken, rfl⟩ := spellsNumeral_of_readsParts hparts
    exact ⟨_, .minus htoken, rfl⟩
  · obtain ⟨rfl, hparts⟩ := (readNumeral_iff_of_unsigned (by simpa using hminus)).mp h
    exact spellsNumeral_of_readsParts hparts

end Numerals

end UploadGate.Json
