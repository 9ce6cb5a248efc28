import GoldenSuite.Proofs.Text.Decoding
import GoldenSuite.Text.Octets

/-!
# Texts as bytes

The string that stands for the bytes of a text shows as that text again, so that different texts
have different bytes. Only for strings that are not the bytes of a text can what is shown be the
same.
-/

namespace GoldenSuite.Octets

/-- The bytes that a string stands for are those of a text. -/
def IsText (octets : String) : Prop :=
  ∃ text, octets = ofText text

theorem toByte_ofByte (byte : UInt8) : toByte (ofByte byte) = byte := by
  have hvalid : byte.toNat.isValidChar := .inl (Nat.lt_trans byte.toNat_lt (by decide))
  have hcode : (ofByte byte).toNat = byte.toNat := by
    rw [ofByte, Char.ofNat, dif_pos hvalid]
    rfl
  rw [toByte, hcode, UInt8.ofNat_toNat]

@[simp] theorem toBytes_ofBytes (bytes : Bytes) : toBytes (ofBytes bytes) = bytes := by
  have hbytes : toByte ∘ ofByte = id := funext toByte_ofByte
  rw [toBytes, ofBytes, String.toList_ofList, List.map_map, hbytes, List.map_id]

@[simp] theorem toBytes_ofText (text : String) : toBytes (ofText text) = Text.encode text :=
  toBytes_ofBytes _

@[simp] theorem toText_ofText (text : String) : toText (ofText text) = text := by
  rw [toText, toBytes_ofText, Text.decodeLossy_encode]

theorem ofText_injective : Function.Injective ofText :=
  Function.LeftInverse.injective toText_ofText

/-- What is shown of texts tells them apart. -/
theorem toText_inj {a b : String} (ha : IsText a) (hb : IsText b) :
    toText a = toText b ↔ a = b := by
  obtain ⟨text, rfl⟩ := ha
  obtain ⟨other, rfl⟩ := hb
  simp only [toText_ofText, ofText_injective.eq_iff]

end GoldenSuite.Octets
