import GoldenSuite.Text.Utf8
import Mathlib.Data.String.Basic

/-!
# The order of bytes

Texts are sorted by their characters, and so by their UTF-8 bytes: the bytes of a character begin
with a mark that grows with their number, and hold the digits of its code in base 64, the highest
first.
-/

namespace GoldenSuite.Text

/-! ### Lists -/

section
variable {as bs : Bytes}

theorem append_lt_append_of_lt {xs ys : Bytes} (hlen : xs.length = ys.length) (h : xs < ys) :
    xs ++ as < ys ++ bs := by
  induction xs generalizing ys with
  | nil =>
    cases ys with
    | nil => simp at h
    | cons y ys => simp at hlen
  | cons x xs ih =>
    cases ys with
    | nil => simp at hlen
    | cons y ys =>
      simp only [List.cons_append, List.cons_lt_cons_iff] at h ⊢
      rcases h with hlt | ⟨heq, hrest⟩
      · exact .inl hlt
      · exact .inr ⟨heq, ih (by simpa using hlen) hrest⟩

theorem append_lt_append_iff (xs : Bytes) : xs ++ as < xs ++ bs ↔ as < bs := by
  induction xs with
  | nil => rfl
  | cons x xs ih => simp [ih]

end

/-! ### Characters -/

/-- A number in base 64 as one byte for each digit: the highest is put on a mark, the others on
the mark of a continuation. -/
def digits (mark : Nat) : Nat → Nat → Bytes
  | 0, v => [UInt8.ofNat (v + mark)]
  | n + 1, v => digits mark n (v / 64) ++ [UInt8.ofNat (v % 64 + 128)]

theorem length_digits (mark n v : Nat) : (digits mark n v).length = n + 1 := by
  induction n generalizing v with
  | zero => rfl
  | succ n ih => simp [digits, ih]

theorem digits_eq_cons (mark n v : Nat) :
    ∃ rest, digits mark n v = UInt8.ofNat (v / 64 ^ n + mark) :: rest := by
  induction n generalizing v with
  | zero => exact ⟨[], by simp [digits]⟩
  | succ n ih =>
    obtain ⟨rest, hrest⟩ := ih (v / 64)
    have hpow : v / 64 ^ (n + 1) = v / 64 / 64 ^ n := by
      rw [Nat.pow_succ', Nat.div_div_eq_div_mul]
    exact ⟨rest ++ [UInt8.ofNat (v % 64 + 128)], by rw [digits, hrest, hpow]; rfl⟩

theorem ofNat_lt_ofNat {a b : Nat} (h : a < b) (hb : b < 256) : UInt8.ofNat a < UInt8.ofNat b := by
  rw [UInt8.lt_iff_toNat_lt, UInt8.toNat_ofNat', UInt8.toNat_ofNat']
  omega

/-- Numbers with as many digits are ordered as their digits are. -/
theorem digits_lt_digits {mark n v w : Nat} (h : v < w) (hw : w / 64 ^ n + mark < 256) :
    digits mark n v < digits mark n w := by
  induction n generalizing v w with
  | zero =>
    have hbyte : w + mark < 256 := by simpa using hw
    have hlt : UInt8.ofNat (v + mark) < UInt8.ofNat (w + mark) := ofNat_lt_ofNat (by omega) hbyte
    simpa [digits, List.cons_lt_cons_iff] using hlt
  | succ n ih =>
    have hpow : w / 64 ^ (n + 1) = w / 64 / 64 ^ n := by
      rw [Nat.pow_succ', Nat.div_div_eq_div_mul]
    by_cases hhigh : v / 64 < w / 64
    · have hlt := ih hhigh (by omega)
      exact append_lt_append_of_lt (by rw [length_digits, length_digits]) hlt
    · have hsame : v / 64 = w / 64 := by omega
      have hlast : UInt8.ofNat (v % 64 + 128) < UInt8.ofNat (w % 64 + 128) :=
        ofNat_lt_ofNat (by omega) (by omega)
      rw [digits, digits, hsame, append_lt_append_iff]
      simpa [List.cons_lt_cons_iff] using hlast

/-- The mark of a character, and how many bytes follow its first one. -/
def mark (v : Nat) : Nat × Nat :=
  if v ≤ 127 then (0, 0)
  else if v ≤ 2047 then (192, 1)
  else if v ≤ 65535 then (224, 2)
  else (240, 3)

theorem toNat_val_lt (c : Char) : c.val.toNat < 0x110000 := by
  rcases c.valid with h | h
  · exact Nat.lt_of_lt_of_le h (by decide)
  · exact h.2

theorem utf8EncodeChar_eq (c : Char) :
    String.utf8EncodeChar c = digits (mark c.val.toNat).1 (mark c.val.toNat).2 c.val.toNat := by
  have hbound := toNat_val_lt c
  unfold String.utf8EncodeChar mark
  generalize c.val.toNat = v at *
  dsimp only
  split
  · simp [digits]
  · split
    · have hlead : v / 64 % 32 = v / 64 := by omega
      simp [digits, hlead]
    · split
      · have hlead : v / 4096 % 16 = v / 4096 := by omega
        simp [digits, hlead, Nat.div_div_eq_div_mul]
      · have hlead : v / 262144 % 8 = v / 262144 := by omega
        simp [digits, hlead, Nat.div_div_eq_div_mul]

theorem mark_cases (v : Nat) :
    (v ≤ 127 ∧ mark v = (0, 0)) ∨ (127 < v ∧ v ≤ 2047 ∧ mark v = (192, 1)) ∨
      (2047 < v ∧ v ≤ 65535 ∧ mark v = (224, 2)) ∨ (65535 < v ∧ mark v = (240, 3)) := by
  unfold mark
  by_cases h₁ : v ≤ 127
  · simp [h₁]
  · by_cases h₂ : v ≤ 2047
    · simp [h₁, h₂, Nat.lt_of_not_le h₁]
    · by_cases h₃ : v ≤ 65535
      · simp [h₁, h₂, h₃, Nat.lt_of_not_le h₂]
      · simp [h₁, h₂, h₃, Nat.lt_of_not_le h₃]

/-- A mark leaves room for the first digit below the next larger mark. -/
theorem lead_cases {v w : Nat} (h : v < w) (hw : w < 0x110000) :
    w / 64 ^ (mark w).2 + (mark w).1 < 256 ∧
      (mark v = mark w ∨
        v / 64 ^ (mark v).2 + (mark v).1 < w / 64 ^ (mark w).2 + (mark w).1) := by
  rcases mark_cases v with ⟨_, hv⟩ | ⟨_, _, hv⟩ | ⟨_, _, hv⟩ | ⟨_, hv⟩ <;>
    rcases mark_cases w with ⟨_, hm⟩ | ⟨_, _, hm⟩ | ⟨_, _, hm⟩ | ⟨_, hm⟩ <;>
    rw [hv, hm] <;>
    dsimp only <;>
    refine ⟨by omega, ?_⟩ <;>
    first | exact .inl rfl | exact .inr (by omega)

/-- A smaller character has smaller bytes, whatever follows. -/
theorem utf8EncodeChar_append_lt {c d : Char} (h : c < d) (as bs : Bytes) :
    String.utf8EncodeChar c ++ as < String.utf8EncodeChar d ++ bs := by
  have hcode : c.val.toNat < d.val.toNat := h
  obtain ⟨hbyte, hlead⟩ := lead_cases hcode (toNat_val_lt d)
  rw [utf8EncodeChar_eq, utf8EncodeChar_eq]
  rcases hlead with hsame | hless
  · refine append_lt_append_of_lt (by rw [length_digits, length_digits, hsame]) ?_
    rw [hsame]
    exact digits_lt_digits hcode hbyte
  · obtain ⟨cs, hcs⟩ := digits_eq_cons (mark c.val.toNat).1 (mark c.val.toNat).2 c.val.toNat
    obtain ⟨ds, hds⟩ := digits_eq_cons (mark d.val.toNat).1 (mark d.val.toNat).2 d.val.toNat
    rw [hcs, hds, List.cons_append, List.cons_append, List.cons_lt_cons_iff]
    exact .inl (ofNat_lt_ofNat hless hbyte)

/-! ### Texts -/

theorem encode_eq (text : String) : encode text = text.toList.flatMap String.utf8EncodeChar := by
  rw [encode, String.toUTF8_eq_toByteArray, ← String.utf8Encode_toList]
  simp [List.utf8Encode]

theorem flatMap_lt_flatMap {cs ds : List Char} (h : cs < ds) :
    cs.flatMap String.utf8EncodeChar < ds.flatMap String.utf8EncodeChar := by
  induction ds generalizing cs with
  | nil => simp at h
  | cons d ds ih =>
    cases cs with
    | nil =>
      cases hd : String.utf8EncodeChar d with
      | nil => exact absurd hd String.utf8EncodeChar_ne_nil
      | cons byte bytes => simp [hd]
    | cons c cs =>
      rw [List.flatMap_cons, List.flatMap_cons]
      rcases List.cons_lt_cons_iff.mp h with hless | ⟨rfl, hrest⟩
      · exact utf8EncodeChar_append_lt hless _ _
      · exact (append_lt_append_iff _).mpr (ih hrest)

/-- Texts are ordered as their bytes are. -/
theorem encode_lt_encode_iff {a b : String} : encode a < encode b ↔ a < b := by
  have hmono : ∀ {x y : String}, x < y → encode x < encode y := by
    intro x y hxy
    rw [encode_eq, encode_eq]
    exact flatMap_lt_flatMap (String.lt_iff_toList_lt.mp hxy)
  constructor
  · intro h
    rcases lt_trichotomy a b with hlt | heq | hgt
    · exact hlt
    · rw [heq] at h
      exact absurd h (List.lt_irrefl _)
    · exact absurd (hmono hgt) (List.lt_asymm h)
  · exact hmono

theorem encode_le_encode_iff {a b : String} : encode a ≤ encode b ↔ a ≤ b := by
  rw [← List.not_lt, ← String.not_lt, encode_lt_encode_iff]

end GoldenSuite.Text
