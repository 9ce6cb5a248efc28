import GoldenSuite.Proofs.Text.Bytewise

/-!
# Bytes that are texts

The bytes of a text are read back as that text, whichever way they are read. Several pieces of
bytes are texts when each of them is.
-/

namespace GoldenSuite.Text

/-! ### Strictly -/

theorem decode?_encode (text : String) : decode? (encode text) = some text := by
  have hbytes : (⟨(encode text).toArray⟩ : ByteArray) = text.toByteArray := by
    simp [encode]
  rw [decode?, hbytes, String.fromUTF8?, dif_pos text.isValidUTF8]
  rfl

theorem mapM_decode?_encode (texts : List String) :
    (texts.map encode).mapM decode? = some texts := by
  induction texts with
  | nil => rfl
  | cons text others ih =>
    rw [List.map_cons, List.mapM_cons, ih, decode?_encode]
    rfl

theorem toNat_ofNat_of_lt {k : Nat} (h : k < 256) : (UInt8.ofNat k).toNat = k := by
  rw [UInt8.toNat_ofNat']
  omega

theorem within_ofNat_iff {low high : UInt8} {k : Nat} (h : k < 256) :
    within low high (UInt8.ofNat k) = true ↔ low.toNat ≤ k ∧ k ≤ high.toNat := by
  simp [within, UInt8.le_iff_toNat_le, toNat_ofNat_of_lt h]

theorem continuation_of_two : ∀ k < 224, 194 ≤ k →
    continuation (UInt8.ofNat k) = some (1, 0x80, 0xBF) := by
  decide +kernel

theorem continuation_of_three : ∀ k < 240, 224 ≤ k → continuation (UInt8.ofNat k) =
    some (2, if k = 224 then 0xA0 else 0x80, if k = 237 then 0x9F else 0xBF) := by
  decide +kernel

theorem continuation_of_four : ∀ k < 245, 240 ≤ k → continuation (UInt8.ofNat k) =
    some (3, if k = 240 then 0x90 else 0x80, if k = 244 then 0x8F else 0xBF) := by
  decide +kernel

section
variable {broken : Char} {read : List Char} {bits count : Nat} {byte low high : UInt8}
  {rest : Bytes}

theorem decodeFrom_of_ascii (h : byte < 0x80) :
    decodeFrom broken read none (byte :: rest) =
      decodeFrom broken (Char.ofNat byte.toNat :: read) none rest := by
  simp only [decodeFrom, h, if_true]

theorem decodeFrom_of_lead (h : ¬ byte < 0x80)
    (hlead : continuation byte = some (count, low, high)) :
    decodeFrom broken read none (byte :: rest) =
      decodeFrom broken read (some (leadBits byte count, count, low, high)) rest := by
  simp only [decodeFrom, h, if_false, hlead]

theorem decodeFrom_of_last (h : within low high byte = true) :
    decodeFrom broken read (some (bits, 1, low, high)) (byte :: rest) =
      decodeFrom broken (Char.ofNat (bits * 64 + byte.toNat % 64) :: read) none rest := by
  simp [decodeFrom, h]

theorem decodeFrom_of_within (h : within low high byte = true) :
    decodeFrom broken read (some (bits, count + 2, low, high)) (byte :: rest) =
      decodeFrom broken read (some (bits * 64 + byte.toNat % 64, count + 1, 0x80, 0xBF)) rest := by
  simp [decodeFrom, h]

/-- The bits of a character that has been read up to its last bytes. -/
theorem decodeFrom_of_digits {v : Nat} :
    decodeFrom broken read (some (v / 64, 1, 0x80, 0xBF)) (UInt8.ofNat (v % 64 + 128) :: rest) =
      decodeFrom broken (Char.ofNat v :: read) none rest := by
  have hin : within 0x80 0xBF (UInt8.ofNat (v % 64 + 128)) = true :=
    (within_ofNat_iff (by omega)).mpr ⟨by simp, by simp; omega⟩
  have hbits : v / 64 * 64 + (UInt8.ofNat (v % 64 + 128)).toNat % 64 = v := by
    rw [toNat_ofNat_of_lt (by omega)]
    omega
  rw [decodeFrom_of_last hin, hbits]

theorem not_ascii {k : Nat} (h : 128 ≤ k) (hk : k < 256) : ¬ UInt8.ofNat k < 0x80 := by
  rw [UInt8.lt_iff_toNat_lt, toNat_ofNat_of_lt hk]
  simpa using h

/-- A character that is one of two digits. -/
theorem decodeFrom_of_two {v : Nat} (h : 127 < v) (h' : v ≤ 2047) :
    decodeFrom broken read none (digits 192 1 v ++ rest) =
      decodeFrom broken (Char.ofNat v :: read) none rest := by
  have hbyte : v / 64 + 192 < 224 := by omega
  have hbits : leadBits (UInt8.ofNat (v / 64 + 192)) 1 = v / 64 := by
    rw [leadBits, toNat_ofNat_of_lt (by omega)]
    omega
  simp only [digits, List.cons_append, List.nil_append]
  rw [decodeFrom_of_lead (not_ascii (by omega) (by omega)) (continuation_of_two _ hbyte (by omega)),
    hbits, decodeFrom_of_digits]

/-- A character of three digits; its second one keeps it above those of two and away from the
surrogates. -/
theorem decodeFrom_of_three {v : Nat} (h : 2047 < v) (h' : v ≤ 65535)
    (hvalid : v < 0xD800 ∨ 0xDFFF < v) :
    decodeFrom broken read none (digits 224 2 v ++ rest) =
      decodeFrom broken (Char.ofNat v :: read) none rest := by
  have hbyte : v / 64 / 64 + 224 < 240 := by omega
  have hbits : leadBits (UInt8.ofNat (v / 64 / 64 + 224)) 2 = v / 64 / 64 := by
    rw [leadBits, toNat_ofNat_of_lt (by omega)]
    omega
  have hin : within (if v / 64 / 64 + 224 = 224 then 0xA0 else 0x80)
      (if v / 64 / 64 + 224 = 237 then 0x9F else 0xBF)
      (UInt8.ofNat (v / 64 % 64 + 128)) = true := by
    rw [within_ofNat_iff (by omega)]
    split <;> split <;> simp <;> omega
  have hsecond : v / 64 / 64 * 64 + (UInt8.ofNat (v / 64 % 64 + 128)).toNat % 64 = v / 64 := by
    rw [toNat_ofNat_of_lt (by omega)]
    omega
  simp only [digits, List.cons_append, List.nil_append]
  rw [decodeFrom_of_lead (not_ascii (by omega) (by omega))
      (continuation_of_three _ hbyte (by omega)),
    hbits, decodeFrom_of_within hin, hsecond, decodeFrom_of_digits]

/-- A character of four digits; its second one keeps it above those of three and below the end of
the codes. -/
theorem decodeFrom_of_four {v : Nat} (h : 65535 < v) (h' : v < 0x110000) :
    decodeFrom broken read none (digits 240 3 v ++ rest) =
      decodeFrom broken (Char.ofNat v :: read) none rest := by
  have hbyte : v / 64 / 64 / 64 + 240 < 245 := by omega
  have hbits : leadBits (UInt8.ofNat (v / 64 / 64 / 64 + 240)) 3 = v / 64 / 64 / 64 := by
    change (UInt8.ofNat (v / 64 / 64 / 64 + 240)).toNat % 8 = _
    rw [toNat_ofNat_of_lt (by omega)]
    omega
  have hin : within (if v / 64 / 64 / 64 + 240 = 240 then 0x90 else 0x80)
      (if v / 64 / 64 / 64 + 240 = 244 then 0x8F else 0xBF)
      (UInt8.ofNat (v / 64 / 64 % 64 + 128)) = true := by
    rw [within_ofNat_iff (by omega)]
    split <;> split <;> simp <;> omega
  have hsecond : v / 64 / 64 / 64 * 64 + (UInt8.ofNat (v / 64 / 64 % 64 + 128)).toNat % 64 =
      v / 64 / 64 := by
    rw [toNat_ofNat_of_lt (by omega)]
    omega
  have hthird : v / 64 / 64 * 64 + (UInt8.ofNat (v / 64 % 64 + 128)).toNat % 64 = v / 64 := by
    rw [toNat_ofNat_of_lt (by omega)]
    omega
  have hnext : within 0x80 0xBF (UInt8.ofNat (v / 64 % 64 + 128)) = true :=
    (within_ofNat_iff (by omega)).mpr ⟨by simp, by simp; omega⟩
  simp only [digits, List.cons_append, List.nil_append]
  rw [decodeFrom_of_lead (not_ascii (by omega) (by omega))
      (continuation_of_four _ hbyte (by omega)),
    hbits, decodeFrom_of_within hin, hsecond, decodeFrom_of_within hnext, hthird,
    decodeFrom_of_digits]

theorem decodeFrom_utf8EncodeChar (c : Char) :
    decodeFrom broken read none (String.utf8EncodeChar c ++ rest) =
      decodeFrom broken (c :: read) none rest := by
  have hc : Char.ofNat c.val.toNat = c := Char.ofNat_toNat c
  rw [utf8EncodeChar_eq]
  rcases mark_cases c.val.toNat with ⟨h, hm⟩ | ⟨h, h', hm⟩ | ⟨h, h', hm⟩ | ⟨h, hm⟩ <;> rw [hm]
  · have hascii : UInt8.ofNat c.val.toNat < 0x80 := by
      rw [UInt8.lt_iff_toNat_lt, toNat_ofNat_of_lt (by omega)]
      simpa using Nat.lt_succ_of_le h
    rw [digits, Nat.add_zero, List.singleton_append, decodeFrom_of_ascii hascii,
      toNat_ofNat_of_lt (by omega), hc]
  · rw [decodeFrom_of_two h h', hc]
  · have hvalid : c.val.toNat < 0xD800 ∨ 0xDFFF < c.val.toNat := c.valid.imp id And.left
    rw [decodeFrom_of_three h h' hvalid, hc]
  · rw [decodeFrom_of_four h (toNat_val_lt c), hc]

end

/-- The bytes of a text are UTF-8 throughout, so that nothing of it is replaced. -/
theorem decodeLossy_encode (text : String) : decodeLossy (encode text) = text := by
  have hchars : ∀ cs read : List Char,
      decodeFrom '\uFFFD' read none (cs.flatMap String.utf8EncodeChar) = read.reverse ++ cs := by
    intro cs
    induction cs with
    | nil => intro read; simp [decodeFrom]
    | cons c cs ih =>
      intro read
      rw [List.flatMap_cons, decodeFrom_utf8EncodeChar, ih]
      simp
  rw [decodeLossy, encode_eq, hchars, List.reverse_nil, List.nil_append, String.ofList_toList]

end GoldenSuite.Text
