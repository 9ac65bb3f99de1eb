import Mathlib.Algebra.Group.Nat.Defs
import UploadGate.Number.Numeral
import UploadGate.Proofs.Text.Trimmed

/-! # What numerals denote

A numeral is a run of digits after at most one sign, and denotes an integer. Reading a signed
numeral gives the integer that it denotes if that fits in 64 bits, reading an unsigned one gives the
number that it denotes if that is not above a bound, and both fail on every other text. Every
integer of 64 bits is read back from the numeral that is written for it.
-/

namespace UploadGate.Numeral

/-- One or more digits. -/
def IsRun (digits : List Char) : Prop := digits ≠ [] ∧ ∀ c ∈ digits, c.isDigit = true

/-- A text is a decimal numeral of an integer, with or without a sign. -/
inductive Denotes : List Char → Int → Prop
  | plain {digits : List Char} (hrun : IsRun digits) : Denotes digits (value digits)
  | plus {digits : List Char} (hrun : IsRun digits) : Denotes ('+' :: digits) (value digits)
  | minus {digits : List Char} (hrun : IsRun digits) : Denotes ('-' :: digits) (-value digits)

/-- The integers of 64 bits with a sign. -/
def InRange (n : Int) : Prop := -9223372036854775808 ≤ n ∧ n ≤ 9223372036854775807

theorem fitsSigned_iff {n : Int} : fitsSigned n = true ↔ InRange n := by
  simp only [fitsSigned, InRange, Bool.and_eq_true, decide_eq_true_eq]

/-! ## Reading -/

theorem natural?_eq_some_iff {cs : List Char} {n : Nat} :
    natural? cs = some n ↔ IsRun cs ∧ value cs = n := by
  simp [natural?, IsRun]

theorem map_natural?_eq_some_iff {cs : List Char} {sign : Nat → Int} {n : Int} :
    (natural? cs).map sign = some n ↔ IsRun cs ∧ n = sign (value cs) := by
  simp only [Option.map_eq_some_iff, natural?_eq_some_iff]
  constructor
  · rintro ⟨_, ⟨hrun, rfl⟩, rfl⟩
    exact ⟨hrun, rfl⟩
  · rintro ⟨hrun, rfl⟩
    exact ⟨_, ⟨hrun, rfl⟩, rfl⟩

theorem not_isRun_minus {cs : List Char} : ¬ IsRun ('-' :: cs) := fun h =>
  absurd (h.2 '-' List.mem_cons_self) (by decide)

theorem not_isRun_plus {cs : List Char} : ¬ IsRun ('+' :: cs) := fun h =>
  absurd (h.2 '+' List.mem_cons_self) (by decide)

theorem denotes_minus_iff {cs : List Char} {n : Int} :
    Denotes ('-' :: cs) n ↔ IsRun cs ∧ n = -value cs := by
  constructor
  · intro h
    cases h with
    | plain hrun => exact absurd hrun not_isRun_minus
    | minus hrun => exact ⟨hrun, rfl⟩
  · rintro ⟨hrun, rfl⟩
    exact .minus hrun

theorem denotes_plus_iff {cs : List Char} {n : Int} :
    Denotes ('+' :: cs) n ↔ IsRun cs ∧ n = value cs := by
  constructor
  · intro h
    cases h with
    | plain hrun => exact absurd hrun not_isRun_plus
    | plus hrun => exact ⟨hrun, rfl⟩
  · rintro ⟨hrun, rfl⟩
    exact .plus hrun

theorem denotes_iff_of_unsigned {cs : List Char} {n : Int} (hminus : ∀ rest, cs ≠ '-' :: rest)
    (hplus : ∀ rest, cs ≠ '+' :: rest) : Denotes cs n ↔ IsRun cs ∧ n = value cs := by
  constructor
  · intro h
    cases h with
    | plain hrun => exact ⟨hrun, rfl⟩
    | plus => exact absurd rfl (hplus _)
    | minus => exact absurd rfl (hminus _)
  · rintro ⟨hrun, rfl⟩
    exact .plain hrun

/-- A signed numeral is read as what it denotes, if that fits in 64 bits. -/
theorem signed?_eq_some_iff {cs : List Char} {n : Int} :
    signed? cs = some n ↔ Denotes cs n ∧ InRange n := by
  rw [← fitsSigned_iff]
  unfold signed?
  split
  next => rw [Option.filter_eq_some_iff, map_natural?_eq_some_iff, denotes_minus_iff]
  next => rw [Option.filter_eq_some_iff, map_natural?_eq_some_iff, denotes_plus_iff]
  next hminus hplus =>
    rw [Option.filter_eq_some_iff, map_natural?_eq_some_iff,
      denotes_iff_of_unsigned hminus hplus]

/-- A text is a decimal numeral of a number, with or without a plus sign. -/
inductive DenotesUnsigned : List Char → Nat → Prop
  | plain {digits : List Char} (hrun : IsRun digits) : DenotesUnsigned digits (value digits)
  | plus {digits : List Char} (hrun : IsRun digits) :
    DenotesUnsigned ('+' :: digits) (value digits)

theorem denotesUnsigned_plus_iff {cs : List Char} {n : Nat} :
    DenotesUnsigned ('+' :: cs) n ↔ IsRun cs ∧ value cs = n := by
  constructor
  · intro h
    cases h with
    | plain hrun => exact absurd hrun not_isRun_plus
    | plus hrun => exact ⟨hrun, rfl⟩
  · rintro ⟨hrun, rfl⟩
    exact .plus hrun

theorem denotesUnsigned_iff_of_ne_plus {cs : List Char} {n : Nat}
    (hplus : ∀ rest, cs ≠ '+' :: rest) : DenotesUnsigned cs n ↔ IsRun cs ∧ value cs = n := by
  constructor
  · intro h
    cases h with
    | plain hrun => exact ⟨hrun, rfl⟩
    | plus => exact absurd rfl (hplus _)
  · rintro ⟨hrun, rfl⟩
    exact .plain hrun

/-- An unsigned numeral is read as what it denotes, if that is not above the bound. -/
theorem unsigned?_eq_some_iff {bound n : Nat} {cs : List Char} :
    unsigned? bound cs = some n ↔ DenotesUnsigned cs n ∧ n ≤ bound := by
  rw [← decide_eq_true_iff (p := n ≤ bound)]
  unfold unsigned?
  split
  next => rw [Option.filter_eq_some_iff, natural?_eq_some_iff, denotesUnsigned_plus_iff]
  next hplus =>
    rw [Option.filter_eq_some_iff, natural?_eq_some_iff, denotesUnsigned_iff_of_ne_plus hplus]

/-! ## Writing -/

theorem isDigit_digitChar : ∀ d < 10, (digitChar d).isDigit = true := by decide

theorem digitValue_digitChar : ∀ d < 10, digitValue (digitChar d) = d := by decide

theorem value_concat (digits : List Char) (c : Char) :
    value (digits ++ [c]) = 10 * value digits + digitValue c := by
  simp [value]

theorem digitValue_lt {c : Char} (h : c.isDigit = true) : digitValue c < 10 := by
  simp only [Char.isDigit, Bool.and_eq_true, decide_eq_true_eq] at h
  have hhigh : c.toNat ≤ 57 := h.2
  have hzero : '0'.toNat = 48 := rfl
  rw [digitValue, hzero]
  omega

theorem value_lt_pow {digits : List Char} (h : ∀ c ∈ digits, c.isDigit = true) :
    value digits < 10 ^ digits.length := by
  induction digits using List.reverseRecOn with
  | nil => decide
  | append_singleton digits c ih =>
    have hdigits := ih fun d hd => h d (List.mem_append_left _ hd)
    have hc := digitValue_lt (h c (List.mem_append_right _ List.mem_cons_self))
    rw [value_concat, List.length_append, List.length_singleton, Nat.pow_succ]
    omega

theorem isRun_ofNat (n : Nat) : IsRun (ofNat n) := by
  induction n using ofNat.induct with
  | case1 n h =>
    rw [ofNat, if_pos h]
    exact ⟨by simp, by simpa using isDigit_digitChar n h⟩
  | case2 n h ih =>
    rw [ofNat, if_neg h]
    refine ⟨by simp, fun c hc => ?_⟩
    rcases List.mem_append.mp hc with hc | hc
    · exact ih.2 c hc
    · rw [List.mem_singleton.mp hc]
      exact isDigit_digitChar _ (by omega)

theorem value_ofNat (n : Nat) : value (ofNat n) = n := by
  -- The induction is the recursion of the writer, which puts the last digit down last.
  induction n using ofNat.induct with
  | case1 n h =>
    rw [ofNat, if_pos h]
    simpa [value] using digitValue_digitChar n h
  | case2 n h ih =>
    rw [ofNat, if_neg h, value_concat, ih, digitValue_digitChar _ (by omega)]
    omega

theorem digitChar_eq : ∀ d < 10, digitChar d = Nat.digitChar d := by decide

theorem ofNat_eq_toDigits (n : Nat) : ofNat n = Nat.toDigits 10 n := by
  induction n using ofNat.induct with
  | case1 n h => rw [ofNat, if_pos h, Nat.toDigits_of_lt_base h, digitChar_eq n h]
  | case2 n h ih =>
    rw [ofNat, if_neg h, ih, digitChar_eq _ (by omega), @Nat.toDigits_eq_if 10 n (by decide),
      if_neg h]

theorem ofNat_inj {n m : Nat} : ofNat n = ofNat m ↔ n = m := by
  refine ⟨fun h => ?_, fun h => by rw [h]⟩
  rw [← value_ofNat n, h, value_ofNat]

/-- The numeral of a number is the usual one. -/
theorem text_natCast (n : Nat) : text n = toString n := by
  have hplain : ofInt n = ofNat n := if_neg (by omega)
  rw [text, hplain, ofNat_eq_toDigits]
  rfl

/-- A number below a power of ten has at most as many digits as the power has zeros. -/
theorem length_ofNat_le {width n : Nat} (h : n < Nat.pow 10 width) (hwidth : 0 < width) :
    (ofNat n).length ≤ width := by
  induction n using ofNat.induct generalizing width with
  | case1 n hn =>
    rw [ofNat, if_pos hn]
    exact hwidth
  | case2 n hn ih =>
    obtain ⟨width, rfl⟩ : ∃ less, width = less + 1 := Nat.exists_eq_add_one.mpr hwidth
    have hpow : Nat.pow 10 (width + 1) = Nat.pow 10 width * 10 := rfl
    have hpositive : 0 < width := by
      by_contra hzero
      obtain rfl : width = 0 := by omega
      exact hn h
    have hlength : (ofNat (n / 10)).length ≤ width := ih (by omega) hpositive
    rw [ofNat, if_neg hn, List.length_append, List.length_singleton]
    omega

theorem length_padded {width n : Nat} (h : n < Nat.pow 10 width) (hwidth : 0 < width) :
    (padded width n).length = width := by
  have hlength := length_ofNat_le h hwidth
  rw [padded, List.length_append, List.length_replicate]
  omega

theorem isRun_padded (width n : Nat) : IsRun (padded width n) := by
  obtain ⟨hne, hdigits⟩ := isRun_ofNat n
  refine ⟨List.append_ne_nil_of_right_ne_nil _ hne, ?_⟩
  intro c hc
  rcases List.mem_append.mp hc with hzero | hdigit
  · rw [List.eq_of_mem_replicate hzero]
    decide
  · exact hdigits c hdigit

/-- Zeros on the left count for nothing. -/
theorem value_padded (width n : Nat) : value (padded width n) = n := by
  have hzeros : ∀ zeros, value (List.replicate zeros '0') = 0 := by
    intro zeros
    induction zeros with
    | zero => rfl
    | succ zeros ih =>
      have hzero : digitValue '0' = 0 := by decide
      rw [List.replicate_succ', value_concat, ih, hzero]
  rw [padded, value, List.foldl_append, ← value, hzeros, ← value, value_ofNat]

/-- The numeral of an integer denotes it. -/
theorem denotes_ofInt (n : Int) : Denotes (ofInt n) n := by
  unfold ofInt
  split
  next h =>
    rw [denotes_minus_iff, value_ofNat]
    exact ⟨isRun_ofNat _, by omega⟩
  next h =>
    have hvalue : (value (ofNat n.natAbs) : Int) = n := by
      rw [value_ofNat]
      omega
    have hplain := Denotes.plain (isRun_ofNat n.natAbs)
    rw [hvalue] at hplain
    exact hplain

theorem signed?_ofInt {n : Int} (h : InRange n) : signed? (ofInt n) = some n :=
  signed?_eq_some_iff.mpr ⟨denotes_ofInt n, h⟩

theorem isDigit_of_mem_blanks : ∀ c ∈ Text.blanks, c.isDigit = false := by
  have hall : (Text.blanks.all fun c => !c.isDigit) = true := by rfl
  intro c hc
  simpa using List.all_eq_true.mp hall c hc

theorem isBlank_of_isDigit {c : Char} (h : c.isDigit = true) : Text.isBlank c = false := by
  by_contra hblank
  have hmem : c ∈ Text.blanks := by simpa [Text.isBlank] using hblank
  rw [isDigit_of_mem_blanks c hmem] at h
  exact Bool.false_ne_true h

theorem IsRun.not_isBlank {digits : List Char} (h : IsRun digits) :
    ∀ c ∈ digits, Text.isBlank c = false :=
  fun c hc => isBlank_of_isDigit (h.2 c hc)

/-- A numeral holds no white space. -/
theorem Denotes.not_isBlank {cs : List Char} {n : Int} (h : Denotes cs n) :
    ∀ c ∈ cs, Text.isBlank c = false := by
  cases h with
  | plain hrun => exact hrun.not_isBlank
  | plus hrun => exact List.forall_mem_cons.mpr ⟨by decide, hrun.not_isBlank⟩
  | minus hrun => exact List.forall_mem_cons.mpr ⟨by decide, hrun.not_isBlank⟩

theorem trim_text (n : Int) : Text.trim (text n) = text n :=
  Text.trim_eq_self_of_forall (by simpa [text] using (denotes_ofInt n).not_isBlank)

end UploadGate.Numeral
