import Mathlib.Data.String.Basic
import Mathlib.Tactic.Common

/-! # The order of bytes

The order of texts by their characters is the order of their bytes in UTF-8. The first byte of a
character tells how many bytes it has, more for higher code points, and among characters with as
many bytes these hold the bits of the code point from the highest to the lowest.
-/

namespace UploadGate.Text

variable {c d : Char} {cs ds : List Char} {s t : String}

/-- The bytes of a text in UTF-8. -/
def utf8 (s : String) : List UInt8 := s.toUTF8.data.toList

theorem utf8_eq_flatMap (s : String) : utf8 s = s.toList.flatMap String.utf8EncodeChar := by
  have hbytes : s.toUTF8 = s.toList.utf8Encode := by
    rw [String.toUTF8_eq_toByteArray, ← String.toByteArray_ofList, String.ofList_toList]
  rw [utf8, hbytes, List.utf8Encode, List.data_toByteArray]

/-! ## Characters -/

/-- The bytes of a code point, one case for each number of them. -/
inductive Encodes : Nat → List UInt8 → Prop
  | one {v : Nat} (hlast : v ≤ 0x7f) : Encodes v [.ofNat v]
  | two {v : Nat} (hfirst : 0x7f < v) (hlast : v ≤ 0x7ff) :
    Encodes v [.ofNat (v / 64 % 32 + 0xc0), .ofNat (v % 64 + 0x80)]
  | three {v : Nat} (hfirst : 0x7ff < v) (hlast : v ≤ 0xffff) :
    Encodes v [.ofNat (v / 4096 % 16 + 0xe0), .ofNat (v / 64 % 64 + 0x80), .ofNat (v % 64 + 0x80)]
  | four {v : Nat} (hfirst : 0xffff < v) (hlast : v ≤ 0x10ffff) :
    Encodes v [.ofNat (v / 262144 % 8 + 0xf0), .ofNat (v / 4096 % 64 + 0x80),
      .ofNat (v / 64 % 64 + 0x80), .ofNat (v % 64 + 0x80)]

theorem encodes_utf8EncodeChar (c : Char) : Encodes c.val.toNat (String.utf8EncodeChar c) := by
  have hbound : c.val.toNat ≤ 0x10ffff := by
    rcases c.valid with hvalid | ⟨-, hvalid⟩
    · exact Nat.le_trans (Nat.le_of_lt hvalid) (by decide)
    · exact Nat.le_of_lt_succ hvalid
  unfold String.utf8EncodeChar
  dsimp only
  split
  next hone => exact .one hone
  next hone =>
    split
    next htwo => exact .two (Nat.lt_of_not_le hone) htwo
    next htwo =>
      split
      next hthree => exact .three (Nat.lt_of_not_le htwo) hthree
      next hthree => exact .four (Nat.lt_of_not_le hthree) hbound

/-- Numbers are compared by what stands before their last six bits, and then by these. -/
theorem lt_iff_last_bits {v w : Nat} :
    v < w ↔ v / 64 < w / 64 ∨ v / 64 = w / 64 ∧ v % 64 < w % 64 := by
  omega

/-- Of two code points the smaller one has the smaller bytes, whatever follows them. -/
theorem Encodes.append_lt {v w : Nat} {bs es : List UInt8} (hv : Encodes v bs) (hw : Encodes w es)
    (h : v < w) (later later' : List UInt8) : bs ++ later < es ++ later' := by
  have hhigher : v / 64 < w / 64 ↔
      v / 4096 < w / 4096 ∨ v / 4096 = w / 4096 ∧ v / 64 % 64 < w / 64 % 64 := by
    rw [lt_iff_last_bits, Nat.div_div_eq_div_mul, Nat.div_div_eq_div_mul]
  have hhighest : v / 4096 < w / 4096 ↔
      v / 262144 < w / 262144 ∨ v / 262144 = w / 262144 ∧ v / 4096 % 64 < w / 4096 % 64 := by
    rw [lt_iff_last_bits, Nat.div_div_eq_div_mul, Nat.div_div_eq_div_mul]
  -- Only the bytes themselves are compared: no case gets as far as what follows.
  cases hv <;> cases hw <;>
    simp only [List.cons_append, List.nil_append, List.cons_lt_cons_iff, UInt8.lt_iff_toNat_lt,
      ← UInt8.toNat_inj, UInt8.toNat_ofNat'] <;>
    simp (disch := omega) only [Nat.mod_eq_of_lt, Nat.add_lt_add_iff_right,
      Nat.add_right_cancel_iff] <;>
    omega

theorem utf8EncodeChar_append_lt (h : c < d) (later later' : List UInt8) :
    String.utf8EncodeChar c ++ later < String.utf8EncodeChar d ++ later' :=
  (encodes_utf8EncodeChar c).append_lt (encodes_utf8EncodeChar d) h later later'

theorem utf8EncodeChar_ne_nil (c : Char) : String.utf8EncodeChar c ≠ [] := by
  have h := encodes_utf8EncodeChar c
  generalize String.utf8EncodeChar c = bs at h
  cases h <;> simp

/-! ## Texts -/

theorem flatMap_utf8EncodeChar_lt (h : cs < ds) :
    cs.flatMap String.utf8EncodeChar < ds.flatMap String.utf8EncodeChar := by
  induction cs generalizing ds with
  | nil =>
    cases ds with
    | nil => exact absurd h (List.not_lt_nil [])
    | cons d ds =>
      obtain ⟨b, bs, hbytes⟩ := List.exists_cons_of_ne_nil (utf8EncodeChar_ne_nil d)
      rw [List.flatMap_nil, List.flatMap_cons, hbytes, List.cons_append]
      exact List.nil_lt_cons b _
  | cons c cs ih =>
    cases ds with
    | nil => exact absurd h (List.not_lt_nil _)
    | cons d ds =>
      rw [List.flatMap_cons, List.flatMap_cons]
      rcases List.cons_lt_cons_iff.mp h with hlt | ⟨rfl, hlt⟩
      · exact utf8EncodeChar_append_lt hlt _ _
      · exact List.append_left_lt (ih hlt)

theorem utf8_lt_utf8_iff : utf8 s < utf8 t ↔ s < t := by
  have hmono : ∀ {s t : String}, s < t → utf8 s < utf8 t := by
    intro s t h
    rw [utf8_eq_flatMap, utf8_eq_flatMap]
    exact flatMap_utf8EncodeChar_lt (String.lt_iff_toList_lt.mp h)
  constructor
  · intro h
    rcases lt_trichotomy s t with hlt | rfl | hgt
    · exact hlt
    · exact absurd h (List.lt_irrefl _)
    · exact absurd (hmono hgt) (List.lt_asymm h)
  · exact hmono

end UploadGate.Text
