import UploadGate.Text.Percent

/-! # Percent-encoding read back

If the percent sign itself is escaped, the bytes of an encoded text decode to those of the plain
one. Two texts then have the same encoding only if they are the same.
-/

namespace UploadGate.Text.Percent

variable {escaped : Char → Bool} {c d : Char} {cs ds : List Char}

/-! ## Escapes -/

/-- Each hexadecimal digit is a single byte, with the value of the digit. -/
theorem map_hexValue_hexDigit :
    ∀ n < 16, (String.utf8EncodeChar (hexDigit n)).map hexValue = [some (UInt8.ofNat n)] := by
  decide

theorem byte_of_digits (b : UInt8) :
    16 * UInt8.ofNat (b.toNat / 16) + UInt8.ofNat (b.toNat % 16) = b := by
  have hbound := b.toNat_lt
  apply UInt8.toNat_inj.mp
  simp only [UInt8.toNat_add, UInt8.toNat_mul, UInt8.toNat_ofNat']
  simp
  omega

theorem decode_encodeByte (b : UInt8) (rest : List UInt8) :
    decode (bytes (encodeByte b) ++ rest) = b :: decode rest := by
  have hbound := b.toNat_lt
  obtain ⟨high, hhigh, hhighValue⟩ :=
    List.map_eq_singleton_iff.mp (map_hexValue_hexDigit (b.toNat / 16) (by omega))
  obtain ⟨low, hlow, hlowValue⟩ :=
    List.map_eq_singleton_iff.mp (map_hexValue_hexDigit (b.toNat % 16) (by omega))
  have hbytes : bytes (encodeByte b) = [0x25, high, low] := by
    have hpercent : String.utf8EncodeChar '%' = [0x25] := by decide
    simp [bytes, encodeByte, hpercent, hhigh, hlow]
  rw [hbytes]
  simp only [List.cons_append, List.nil_append, decode, hhighValue, hlowValue, byte_of_digits]

theorem decode_flatMap_encodeByte (bs rest : List UInt8) :
    decode (bytes (bs.flatMap encodeByte) ++ rest) = bs ++ decode rest := by
  induction bs with
  | nil => rfl
  | cons b bs ih =>
    have hbytes : bytes ((b :: bs).flatMap encodeByte) =
        bytes (encodeByte b) ++ bytes (bs.flatMap encodeByte) := by simp [bytes]
    rw [hbytes, List.append_assoc, decode_encodeByte, ih, List.cons_append]

/-! ## Plain bytes -/

theorem decode_cons_of_ne {b : UInt8} (h : b ≠ 0x25) (rest : List UInt8) :
    decode (b :: rest) = b :: decode rest := by
  rw [decode]
  rintro _ _ _ rfl
  exact absurd rfl h

theorem decode_append_of_not_mem {bs : List UInt8} (h : 0x25 ∉ bs) (rest : List UInt8) :
    decode (bs ++ rest) = bs ++ decode rest := by
  induction bs with
  | nil => rfl
  | cons b bs ih =>
    obtain ⟨hb, hbs⟩ := List.ne_and_not_mem_of_not_mem_cons h
    rw [List.cons_append, decode_cons_of_ne (Ne.symm hb), ih hbs, List.cons_append]

/-- The bytes of a character outside ASCII have their highest bit set. -/
theorem high_of_mem_utf8EncodeChar (hc : 0x7f < c.val.toNat) :
    ∀ b ∈ String.utf8EncodeChar c, 0x80 ≤ b.toNat := by
  have hnone : ∀ b ∈ ([] : List UInt8), 0x80 ≤ b.toNat := List.forall_mem_nil _
  rw [String.utf8EncodeChar, if_neg (by omega)]
  split
  next =>
    simp only [List.forall_mem_cons, UInt8.toNat_ofNat']
    exact ⟨by omega, by omega, hnone⟩
  next =>
    split
    next =>
      simp only [List.forall_mem_cons, UInt8.toNat_ofNat']
      exact ⟨by omega, by omega, by omega, hnone⟩
    next =>
      simp only [List.forall_mem_cons, UInt8.toNat_ofNat']
      exact ⟨by omega, by omega, by omega, by omega, hnone⟩

/-- Only the percent sign has its byte in its UTF-8 form. -/
theorem eq_percent_of_mem_utf8EncodeChar (h : 0x25 ∈ String.utf8EncodeChar c) : c = '%' := by
  have hascii : c.val.toNat ≤ 0x7f := by
    refine Nat.le_of_not_lt fun hhigh => ?_
    exact absurd (high_of_mem_utf8EncodeChar hhigh _ h) (by decide)
  rw [String.utf8EncodeChar, if_pos hascii] at h
  have hbyte := congrArg UInt8.toNat (List.mem_singleton.mp h)
  have hvalue : c.val.toNat = 0x25 := by
    rw [UInt8.toNat_ofNat', Nat.mod_eq_of_lt (by omega)] at hbyte
    exact hbyte.symm
  exact Char.ext (UInt32.toNat_inj.mp hvalue)

/-! ## Texts -/

theorem decode_encodeChar (hpercent : escaped '%' = true) (c : Char) (rest : List UInt8) :
    decode (bytes (encodeChar escaped c) ++ rest) = String.utf8EncodeChar c ++ decode rest := by
  unfold encodeChar
  split
  next => exact decode_flatMap_encodeByte _ rest
  next hplain =>
    have hbytes : bytes [c] = String.utf8EncodeChar c := by simp [bytes]
    rw [hbytes]
    apply decode_append_of_not_mem
    intro hmem
    rw [eq_percent_of_mem_utf8EncodeChar hmem] at hplain
    exact hplain hpercent

/-- The bytes of an encoding that escapes the percent sign decode to those of the text. -/
theorem decode_encode (hpercent : escaped '%' = true) (cs : List Char) :
    decode (bytes (encode escaped cs)) = bytes cs := by
  induction cs with
  | nil => rfl
  | cons c cs ih =>
    have hbytes : bytes (encode escaped (c :: cs)) =
        bytes (encodeChar escaped c) ++ bytes (encode escaped cs) := by simp [bytes, encode]
    rw [hbytes, decode_encodeChar hpercent, ih]
    simp [bytes]

/-- An encoding that escapes the percent sign stands for the text. -/
theorem decodeText?_encode (hpercent : escaped '%' = true) (cs : List Char) :
    decodeText? (encode escaped cs) = some (.ofList cs) := by
  have hbytes : (⟨(bytes cs).toArray⟩ : ByteArray) = cs.utf8Encode := by
    apply ByteArray.ext
    rw [List.utf8Encode, List.data_toByteArray, bytes]
  rw [decodeText?, decode_encode hpercent, hbytes, String.fromUTF8?, dif_pos ⟨cs, rfl⟩]
  rfl

theorem encode_inj (hpercent : escaped '%' = true) :
    encode escaped cs = encode escaped ds ↔ cs = ds := by
  refine ⟨fun h => ?_, fun h => by rw [h]⟩
  have htexts := decodeText?_encode hpercent cs
  rw [h, decodeText?_encode hpercent ds] at htexts
  exact String.ofList_injective (Option.some.inj htexts).symm

theorem encode_eq_nil_iff (hpercent : escaped '%' = true) : encode escaped cs = [] ↔ cs = [] :=
  @encode_inj escaped cs [] hpercent

/-- A text that holds nothing to be escaped is its own encoding. -/
theorem encode_eq_self (h : ∀ c ∈ cs, escaped c = false) : encode escaped cs = cs := by
  induction cs with
  | nil => rfl
  | cons c cs ih =>
    obtain ⟨hc, hcs⟩ := List.forall_mem_cons.mp h
    rw [encode, List.flatMap_cons, encodeChar, hc, if_neg Bool.false_ne_true]
    exact congrArg (c :: ·) (ih hcs)

theorem isAlphanum_hexDigit : ∀ n < 16, (hexDigit n).isAlphanum = true := by
  decide

/-- An encoding holds nothing that is escaped, but for what escapes are made of. -/
theorem of_mem_encode (h : d ∈ encode escaped cs) :
    escaped d = false ∨ d = '%' ∨ d.isAlphanum = true := by
  obtain ⟨c, -, hchar⟩ := List.mem_flatMap.mp h
  unfold encodeChar at hchar
  split at hchar
  next =>
    obtain ⟨b, -, hbyte⟩ := List.mem_flatMap.mp hchar
    have hbound := b.toNat_lt
    simp only [encodeByte, List.mem_cons, List.not_mem_nil, or_false] at hbyte
    rcases hbyte with rfl | rfl | rfl
    · exact Or.inr (Or.inl rfl)
    · exact Or.inr (Or.inr (isAlphanum_hexDigit _ (by omega)))
    · exact Or.inr (Or.inr (isAlphanum_hexDigit _ (by omega)))
  next hplain =>
    rw [List.mem_singleton.mp hchar]
    exact Or.inl (by simpa using hplain)

end UploadGate.Text.Percent
