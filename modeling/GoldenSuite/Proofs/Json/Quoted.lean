import GoldenSuite.Proofs.Json.Readers

/-!
# Reading texts between quotes

`textFrom` keeps a UTF-16 unit in hand while it waits for its partner. `Awaited` says what the
characters have to be in either state; the reader is exact for it, and for `Letters` at its start.
-/

namespace GoldenSuite.Json

/-! ### Hexadecimal digits -/

theorem HexDigit.lt {d : Char} {value : Nat} (h : HexDigit d value) : value < 16 := by
  rcases h with h | h
  · exact (List.getElem?_eq_some_iff.mp h).1
  · exact (List.getElem?_eq_some_iff.mp h).1

theorem hexDigit?_of_digit {d : Char} {value : Nat} (h : HexDigit d value) :
    hexDigit? d = some value := by
  have hlt := h.lt
  rcases h with h | h <;> interval_cases value <;> cases h <;> decide

theorem digit_of_hexDigit? {d : Char} {value : Nat} (h : hexDigit? d = some value) :
    HexDigit d value := by
  have hcode : ∀ n, d.toNat = n → d = Char.ofNat n := by
    rintro n rfl
    exact (Char.ofNat_toNat d).symm
  -- The digits of one range, by their codes.
  unfold hexDigit? at h
  split at h
  · next hrange =>
    have hlow : 48 ≤ d.toNat := hrange.1
    have hhigh : d.toNat ≤ 57 := hrange.2
    cases h
    generalize d.toNat = n at *
    interval_cases n <;> cases hcode _ rfl <;> exact .inl rfl
  split at h
  · next hrange =>
    have hlow : 97 ≤ d.toNat := hrange.1
    have hhigh : d.toNat ≤ 102 := hrange.2
    cases h
    generalize d.toNat = n at *
    interval_cases n <;> cases hcode _ rfl <;> exact .inl rfl
  split at h
  · next hrange =>
    have hlow : 65 ≤ d.toNat := hrange.1
    have hhigh : d.toNat ≤ 70 := hrange.2
    cases h
    generalize d.toNat = n at *
    interval_cases n <;> cases hcode _ rfl <;> exact .inr rfl
  · cases h

theorem hexValue?_eq_some_iff {a b c d : Char} {unit : Nat} (rest : List Char) :
    hexValue? [a, b, c, d] = some unit ↔ Hex (a :: b :: c :: d :: rest) unit rest := by
  have hvalue : hexValue? [a, b, c, d] = some unit ↔ ∃ w x y z, hexDigit? a = some w ∧
      hexDigit? b = some x ∧ hexDigit? c = some y ∧ hexDigit? d = some z ∧
      ((w * 16 + x) * 16 + y) * 16 + z = unit := by
    simp only [hexValue?, List.foldlM_cons, List.foldlM_nil, Option.bind_eq_bind,
      Option.pure_def, Option.bind_eq_some_iff, Option.map_eq_some_iff, Option.some.injEq,
      exists_exists_and_eq_and, Nat.zero_mul, Nat.zero_add, exists_and_left]
  rw [hvalue]
  constructor
  · rintro ⟨w, x, y, z, ha, hb, hc, hd, rfl⟩
    exact .four (digit_of_hexDigit? ha) (digit_of_hexDigit? hb) (digit_of_hexDigit? hc)
      (digit_of_hexDigit? hd)
  · rintro ⟨ha, hb, hc, hd⟩
    exact ⟨_, _, _, _, hexDigit?_of_digit ha, hexDigit?_of_digit hb, hexDigit?_of_digit hc,
      hexDigit?_of_digit hd, rfl⟩

theorem shortEscape?_eq_some_iff {e c : Char} :
    shortEscape? e = some c ↔ (e, c) ∈ shortEscapes := by
  constructor
  · intro h
    unfold shortEscape? at h
    split at h <;> cases h <;> decide
  · intro h
    simp only [shortEscapes, List.mem_cons, Prod.mk.injEq, List.not_mem_nil, or_false] at h
    rcases h with h | h | h | h | h | h | h | h <;> rcases h with ⟨rfl, rfl⟩ <;> rfl

theorem Hex.unique {cs rest rest' : List Char} {unit unit' : Nat} (h : Hex cs unit rest)
    (h' : Hex cs unit' rest') : unit = unit' ∧ rest = rest' := by
  cases h with
  | four ha hb hc hd =>
    have hfirst := (hexValue?_eq_some_iff rest).mpr (.four ha hb hc hd)
    cases h' with
    | four ha' hb' hc' hd' =>
      have hsecond := (hexValue?_eq_some_iff rest).mpr (.four ha' hb' hc' hd')
      exact ⟨Option.some.inj (hfirst.symm.trans hsecond), rfl⟩

/-! ### UTF-16 units -/

theorem unit_of_char (c : Char) : isHighUnit c.toNat = false ∧ isLowUnit c.toNat = false := by
  have hvalid : c.toNat < 0xD800 ∨ 0xDFFF < c.toNat ∧ c.toNat < 0x110000 := c.valid
  constructor
  · simp only [isHighUnit, Bool.and_eq_false_iff, decide_eq_false_iff_not]
    omega
  · simp only [isLowUnit, Bool.and_eq_false_iff, decide_eq_false_iff_not]
    omega

theorem toNat_ofNat {code : Nat} (h : code.isValidChar) : (Char.ofNat code).toNat = code := by
  rw [Char.ofNat, dif_pos h]
  rfl

theorem toNat_ofNat_of_unit {unit : Nat} (hunit : unit < 0x10000) (hhigh : isHighUnit unit = false)
    (hlow : isLowUnit unit = false) : (Char.ofNat unit).toNat = unit := by
  simp only [isHighUnit, isLowUnit, Bool.and_eq_false_iff, decide_eq_false_iff_not] at hhigh hlow
  have hvalid : unit.isValidChar := by
    unfold Nat.isValidChar
    omega
  exact toNat_ofNat hvalid

theorem toNat_pairedChar {high low : Nat} (hhigh : isHighUnit high) (hlow : isLowUnit low) :
    (pairedChar high low).toNat = (high - 0xD800) * 0x400 + (low - 0xDC00) + 0x10000 := by
  simp only [isHighUnit, isLowUnit, Bool.and_eq_true, decide_eq_true_eq] at hhigh hlow
  have hvalid : ((high - 0xD800) * 0x400 + (low - 0xDC00) + 0x10000).isValidChar := by
    unfold Nat.isValidChar
    omega
  exact toNat_ofNat hvalid

/-- The units of a character that takes two of them. -/
theorem units_of_char {c : Char} (hbig : 0x10000 ≤ c.toNat) {high low : Nat}
    (hfirst : 0xD800 + (c.toNat - 0x10000) / 0x400 = high)
    (hsecond : 0xDC00 + (c.toNat - 0x10000) % 0x400 = low) :
    isHighUnit high ∧ isLowUnit low ∧ pairedChar high low = c := by
  have hvalid : c.toNat < 0xD800 ∨ 0xDFFF < c.toNat ∧ c.toNat < 0x110000 := c.valid
  have hhigh : isHighUnit high := by
    simp only [isHighUnit, Bool.and_eq_true, decide_eq_true_eq]
    omega
  have hlow : isLowUnit low := by
    simp only [isLowUnit, Bool.and_eq_true, decide_eq_true_eq]
    omega
  refine ⟨hhigh, hlow, ?_⟩
  have hcode := toNat_pairedChar hhigh hlow
  have hsame : (pairedChar high low).toNat = c.toNat := by omega
  rw [← Char.ofNat_toNat c, ← hsame, Char.ofNat_toNat]

theorem units_of_paired {high low : Nat} (hhigh : isHighUnit high) (hlow : isLowUnit low) :
    0x10000 ≤ (pairedChar high low).toNat ∧
      0xD800 + ((pairedChar high low).toNat - 0x10000) / 0x400 = high ∧
        0xDC00 + ((pairedChar high low).toNat - 0x10000) % 0x400 = low := by
  rw [toNat_pairedChar hhigh hlow]
  simp only [isHighUnit, isLowUnit, Bool.and_eq_true, decide_eq_true_eq] at hhigh hlow
  omega

theorem not_low_of_high {unit : Nat} (h : isHighUnit unit) : ¬ isLowUnit unit := by
  simp only [isHighUnit, isLowUnit, Bool.and_eq_true, decide_eq_true_eq] at *
  omega

theorem Hex.lt {cs rest : List Char} {unit : Nat} (h : Hex cs unit rest) : unit < 0x10000 := by
  cases h with
  | four ha hb hc hd =>
    have := ha.lt
    have := hb.lt
    have := hc.lt
    have := hd.lt
    omega

/-! ### Characters up to the closing quote -/

/-- What follows while a unit is in hand, or none. -/
inductive Awaited : Option Nat → List Char → List Char → List Char → Prop
  | none {cs s rest} : Letters cs s rest → Awaited none cs s rest
  | some {high low cs mid s rest} : Hex cs low mid → isLowUnit low → Letters mid s rest →
      Awaited (some high) ('\\' :: 'u' :: cs) (pairedChar high low :: s) rest

theorem awaited_none_iff {cs s rest : List Char} : Awaited none cs s rest ↔ Letters cs s rest :=
  ⟨fun | .none h => h, .none⟩

theorem not_awaited_of_hex {high : Option Nat} {cs s rest : List Char}
    (h : ∀ unit mid, ¬ Hex cs unit mid) : ¬ Awaited high ('\\' :: 'u' :: cs) s rest := by
  rintro (hletters | ⟨hhex, -, -⟩)
  · cases hletters with
    | letter hletter _ =>
      cases hletter with
      | plain _ hback _ => exact hback rfl
      | short hshort => exact absurd hshort (by simp [shortEscapes])
      | unit hhex => exact h _ _ hhex
      | pair _ hhex _ => exact h _ _ hhex
  · exact h _ _ hhex

/-- A unit is a character by itself, or the first of the two that a character takes. -/
theorem letters_hex_iff {cs mid s rest : List Char} {unit : Nat} (h : Hex cs unit mid) :
    Letters ('\\' :: 'u' :: cs) s rest ↔ ∃ c more, s = c :: more ∧
      (c.toNat = unit ∧ Letters mid more rest ∨
        0x10000 ≤ c.toNat ∧ 0xD800 + (c.toNat - 0x10000) / 0x400 = unit ∧ ∃ second after,
          mid = '\\' :: 'u' :: second ∧ Hex second (0xDC00 + (c.toNat - 0x10000) % 0x400) after ∧
            Letters after more rest) := by
  constructor
  · intro hletters
    cases hletters with
    | letter hletter hmore =>
      cases hletter with
      | plain _ hback _ => exact absurd rfl hback
      | short hshort => exact absurd hshort (by simp [shortEscapes])
      | unit hhex =>
        obtain ⟨rfl, rfl⟩ := h.unique hhex
        exact ⟨_, _, rfl, .inl ⟨rfl, hmore⟩⟩
      | pair hbig hhex hhex' =>
        obtain ⟨rfl, rfl⟩ := h.unique hhex
        exact ⟨_, _, rfl, .inr ⟨hbig, rfl, _, _, rfl, hhex', hmore⟩⟩
  · rintro ⟨c, more, rfl, ⟨rfl, hmore⟩ | ⟨hbig, rfl, second, after, rfl, hhex', hmore⟩⟩
    · exact .letter (.unit h) hmore
    · exact .letter (.pair hbig h hhex') hmore

theorem letters_unit_iff {cs mid s rest : List Char} {unit : Nat} (h : Hex cs unit mid)
    (hhigh : isHighUnit unit = false) (hlow : isLowUnit unit = false) :
    Letters ('\\' :: 'u' :: cs) s rest ↔
      ∃ more, s = Char.ofNat unit :: more ∧ Letters mid more rest := by
  rw [letters_hex_iff h]
  constructor
  · rintro ⟨c, more, rfl, ⟨rfl, hmore⟩ | ⟨hbig, hfirst, -⟩⟩
    · exact ⟨more, by rw [Char.ofNat_toNat], hmore⟩
    · have hunit := (units_of_char hbig hfirst rfl).1
      simp [hhigh] at hunit
  · rintro ⟨more, rfl, hmore⟩
    exact ⟨_, more, rfl, .inl ⟨toNat_ofNat_of_unit h.lt hhigh hlow, hmore⟩⟩

theorem letters_high_iff {cs mid s rest : List Char} {unit : Nat} (h : Hex cs unit mid)
    (hhigh : isHighUnit unit) :
    Letters ('\\' :: 'u' :: cs) s rest ↔ Awaited (some unit) mid s rest := by
  rw [letters_hex_iff h]
  constructor
  · rintro ⟨c, more, rfl, ⟨rfl, -⟩ | ⟨hbig, hfirst, second, after, rfl, hhex, hmore⟩⟩
    · simp [(unit_of_char c).1] at hhigh
    · obtain ⟨-, hlow, hpaired⟩ := units_of_char hbig hfirst rfl
      have hawaited := @Awaited.some unit _ _ _ _ _ hhex hlow hmore
      rwa [hpaired] at hawaited
  · intro hawaited
    cases hawaited with
    | some hhex hlow hmore =>
      obtain ⟨hbig, hfirst, hsecond⟩ := units_of_paired hhigh hlow
      exact ⟨_, _, rfl, .inr ⟨hbig, hfirst, _, _, rfl, hsecond.symm ▸ hhex, hmore⟩⟩

theorem not_letters_of_low {cs mid s rest : List Char} {unit : Nat} (h : Hex cs unit mid)
    (hlow : isLowUnit unit) : ¬ Letters ('\\' :: 'u' :: cs) s rest := by
  rw [letters_hex_iff h]
  rintro ⟨c, more, rfl, ⟨rfl, -⟩ | ⟨hbig, hfirst, -⟩⟩
  · simp [(unit_of_char c).2] at hlow
  · exact not_low_of_high (units_of_char hbig hfirst rfl).1 hlow

theorem letters_short_iff {e : Char} {cs s rest : List Char} (he : e ≠ 'u') :
    Letters ('\\' :: e :: cs) s rest ↔
      ∃ c more, (e, c) ∈ shortEscapes ∧ s = c :: more ∧ Letters cs more rest := by
  constructor
  · intro hletters
    cases hletters with
    | letter hletter hmore =>
      cases hletter with
      | plain _ hback _ => exact absurd rfl hback
      | short hshort => exact ⟨_, _, hshort, rfl, hmore⟩
      | unit _ => exact absurd rfl he
      | pair _ _ _ => exact absurd rfl he
  · rintro ⟨c, more, hshort, rfl, hmore⟩
    exact .letter (.short hshort) hmore

theorem letters_plain_iff {c : Char} {cs s rest : List Char} (hquote : c ≠ '"') (hback : c ≠ '\\') :
    Letters (c :: cs) s rest ↔
      0x20 ≤ c.toNat ∧ ∃ more, s = c :: more ∧ Letters cs more rest := by
  constructor
  · intro hletters
    cases hletters with
    | close => exact absurd rfl hquote
    | letter hletter hmore =>
      cases hletter with
      | plain _ _ hcode => exact ⟨hcode, _, rfl, hmore⟩
      | short _ => exact absurd rfl hback
      | unit _ => exact absurd rfl hback
      | pair _ _ _ => exact absurd rfl hback
  · rintro ⟨hcode, more, rfl, hmore⟩
    exact .letter (.plain hquote hback hcode) hmore

theorem letters_close_iff {cs s rest : List Char} :
    Letters ('"' :: cs) s rest ↔ s = [] ∧ rest = cs := by
  constructor
  · intro hletters
    cases hletters with
    | close => exact ⟨rfl, rfl⟩
    | letter hletter _ =>
      cases hletter with
      | plain hquote _ _ => exact absurd rfl hquote
  · rintro ⟨rfl, rfl⟩
    exact .close

theorem awaited_some_iff {high : Nat} {cs mid s rest : List Char} {unit : Nat} (h : Hex cs unit mid)
    (hlow : isLowUnit unit) : Awaited (some high) ('\\' :: 'u' :: cs) s rest ↔
      ∃ more, s = pairedChar high unit :: more ∧ Letters mid more rest := by
  constructor
  · intro hawaited
    cases hawaited with
    | some hhex _ hmore =>
      obtain ⟨rfl, rfl⟩ := h.unique hhex
      exact ⟨_, rfl, hmore⟩
  · rintro ⟨more, rfl, hmore⟩
    exact .some h hlow hmore

theorem letters_escape_iff {e c : Char} {cs s rest : List Char} (he : e ≠ 'u')
    (h : shortEscape? e = some c) :
    Letters ('\\' :: e :: cs) s rest ↔ ∃ more, s = c :: more ∧ Letters cs more rest := by
  rw [letters_short_iff he]
  constructor
  · rintro ⟨c', more, hmem, rfl, hmore⟩
    obtain rfl := Option.some.inj ((shortEscape?_eq_some_iff.mpr hmem).symm.trans h)
    exact ⟨more, rfl, hmore⟩
  · rintro ⟨more, rfl, hmore⟩
    exact ⟨c, more, shortEscape?_eq_some_iff.mp h, rfl, hmore⟩

/-! ### Characters that a text cannot go on with -/

section
variable {high : Option Nat} {cs mid s rest : List Char}

theorem not_awaited_nil : ¬ Awaited high [] s rest := by
  rintro (hletters | _)
  cases hletters with
  | letter hletter _ => cases hletter

theorem not_awaited_backslash : ¬ Awaited high ['\\'] s rest := by
  rintro (hletters | _)
  cases hletters with
  | letter hletter _ =>
    cases hletter with
    | plain _ hback _ => exact hback rfl

theorem not_awaited_of_digits {a b c d : Char} (h : hexValue? [a, b, c, d] = none) :
    ¬ Awaited high ('\\' :: 'u' :: a :: b :: c :: d :: cs) s rest := by
  refine not_awaited_of_hex fun unit mid hhex => ?_
  cases hhex with
  | four ha hb hc hd =>
    have hsome := (hexValue?_eq_some_iff cs).mpr (.four ha hb hc hd)
    rw [hsome] at h
    cases h

theorem not_awaited_of_few (h : ∀ a b c d more, cs = a :: b :: c :: d :: more → False) :
    ¬ Awaited high ('\\' :: 'u' :: cs) s rest := by
  refine not_awaited_of_hex fun unit mid hhex => ?_
  cases hhex with
  | four _ _ _ _ => exact h _ _ _ _ _ rfl

theorem not_awaited_of_not_low {first unit : Nat} (h : Hex cs unit mid) (hlow : ¬ isLowUnit unit) :
    ¬ Awaited (some first) ('\\' :: 'u' :: cs) s rest := by
  rintro (_ | ⟨hhex, hlow', -⟩)
  obtain ⟨rfl, -⟩ := h.unique hhex
  exact hlow hlow'

theorem not_awaited_of_isSome (hhigh : high.isSome) (h : ∀ more, cs ≠ '\\' :: 'u' :: more) :
    ¬ Awaited high cs s rest := by
  rintro (_ | _)
  · cases hhigh
  · exact h _ rfl

theorem not_letters_escape {e : Char} (he : e ≠ 'u') (h : shortEscape? e = none) :
    ¬ Letters ('\\' :: e :: cs) s rest := by
  rw [letters_short_iff he]
  rintro ⟨c, more, hmem, -⟩
  rw [shortEscape?_eq_some_iff.mpr hmem] at h
  cases h

end

/-! ### The scanner -/

section
variable {s : String} {read rest : List Char}

theorem ne_backslash {c : Char} (hend : c = '\\' → rest = [] → False)
    (hback : ∀ d more, c = '\\' → rest = d :: more → False) : c ≠ '\\' := by
  intro hc
  cases rest with
  | nil => exact hend hc rfl
  | cons d more => exact hback d more hc rfl

theorem refused_iff {problem : Problem} {expected : List Char → Prop}
    (h : ∀ more, ¬ expected more) :
    (∃ after : Cursor, (.error problem : Except Problem (String × Cursor)) = .ok (s, after) ∧
      after.rest = rest) ↔ ∃ more, s = String.ofList (read.reverse ++ more) ∧ expected more := by
  constructor
  · rintro ⟨after, hok, -⟩
    cases hok
  · rintro ⟨more, -, hmore⟩
    exact absurd hmore (h more)

theorem closed_iff (cs : List Char) (line column : Nat) :
    (∃ after : Cursor, (.ok (String.ofList read.reverse, ⟨cs, line, column⟩) :
        Except Problem (String × Cursor)) = .ok (s, after) ∧ after.rest = rest) ↔
      ∃ more, s = String.ofList (read.reverse ++ more) ∧ Letters ('"' :: cs) more rest := by
  simp only [letters_close_iff]
  constructor
  · rintro ⟨_, hok, rfl⟩
    cases hok
    exact ⟨[], by simp, rfl, rfl⟩
  · rintro ⟨more, rfl, rfl, hrest⟩
    exact ⟨⟨cs, line, column⟩, by rw [List.append_nil], hrest.symm⟩

theorem taken_iff {c : Char} {later expected : List Char → Prop}
    (h : ∀ more, expected more ↔ ∃ tail, more = c :: tail ∧ later tail) :
    (∃ more, s = String.ofList ((c :: read).reverse ++ more) ∧ later more) ↔
      ∃ more, s = String.ofList (read.reverse ++ more) ∧ expected more := by
  constructor
  · rintro ⟨tail, rfl, htail⟩
    exact ⟨c :: tail, by simp, (h _).mpr ⟨tail, rfl, htail⟩⟩
  · rintro ⟨more, rfl, hmore⟩
    obtain ⟨tail, rfl, htail⟩ := (h more).mp hmore
    exact ⟨tail, by simp, htail⟩

end

/-- The scanner stops, or it goes on with one more character or with a unit in hand, which is no
character yet and is told by `Awaited`. -/
theorem textFrom_ok_iff {line column : Nat} {read : List Char} {high : Option Nat}
    {cs rest : List Char} {s : String} (hhigh : ∀ unit ∈ high, isHighUnit unit) :
    (∃ after, textFrom line column read high cs = .ok (s, after) ∧ after.rest = rest) ↔
      ∃ more, s = String.ofList (read.reverse ++ more) ∧ Awaited high cs more rest := by
  fun_induction textFrom line column read high cs with
  | case1 => exact refused_iff fun more => not_awaited_nil
  | case2 => exact refused_iff fun more => not_awaited_backslash
  | case3 column read high a b c d after hnone =>
    exact refused_iff fun more => not_awaited_of_digits hnone
  | case4 column read a b c d after unit hunit first hlow ih =>
    have hhex := (hexValue?_eq_some_iff after).mp hunit
    rw [ih (by simp)]
    refine taken_iff fun more => (awaited_some_iff hhex hlow).trans ?_
    simp only [awaited_none_iff]
  | case5 column read a b c d after unit hunit first hlow =>
    have hhex := (hexValue?_eq_some_iff after).mp hunit
    exact refused_iff fun more => not_awaited_of_not_low hhex hlow
  | case6 column read a b c d after unit hunit hlow =>
    have hhex := (hexValue?_eq_some_iff after).mp hunit
    refine refused_iff fun more => ?_
    rw [awaited_none_iff]
    exact not_letters_of_low hhex hlow
  | case7 column read a b c d after unit hunit hlow hfirst ih =>
    have hhex := (hexValue?_eq_some_iff after).mp hunit
    rw [ih (by simpa using hfirst)]
    simp only [awaited_none_iff, letters_high_iff hhex hfirst]
  | case8 column read a b c d after unit hunit hlow hfirst ih =>
    have hhex := (hexValue?_eq_some_iff after).mp hunit
    rw [ih (by simp)]
    refine taken_iff fun more => ?_
    simp only [awaited_none_iff]
    exact letters_unit_iff hhex (by simpa using hfirst) (by simpa using hlow)
  | case9 column read high after hshort =>
    exact refused_iff fun more => not_awaited_of_few hshort
  | case10 column read high e after hunit hu _ hsome =>
    refine refused_iff fun more => not_awaited_of_isSome hsome ?_
    rintro _ ⟨⟩
    exact hu rfl
  | case11 column read high e after hunit hu hsome char hshort ih =>
    obtain rfl : high = none := by simpa using hsome
    rw [ih (by simp)]
    refine taken_iff fun more => ?_
    simp only [awaited_none_iff, letters_escape_iff hu hshort]
  | case12 column read high e after hunit hu _ hsome hshort =>
    obtain rfl : high = none := by simpa using hsome
    refine refused_iff fun more => ?_
    rw [awaited_none_iff]
    exact not_letters_escape hu hshort
  | case13 column read high c after hend hunit hu hback _ hsome =>
    refine refused_iff fun more => not_awaited_of_isSome hsome ?_
    rintro _ ⟨⟩
    exact hback _ _ rfl rfl
  | case14 column read high after hsome =>
    obtain rfl : high = none := by simpa using hsome
    simp only [awaited_none_iff]
    exact closed_iff _ _ _
  | case15 column read high c after hend hunit hu hback _ hsome hquote hcode =>
    obtain rfl : high = none := by simpa using hsome
    refine refused_iff fun more => ?_
    rw [awaited_none_iff, letters_plain_iff hquote (ne_backslash hend hback)]
    rintro ⟨hge, -⟩
    omega
  | case16 column read high c after hend hunit hu hback hsome hquote hcode ih =>
    obtain rfl : high = none := by simpa using hsome
    rw [ih (by simp)]
    refine taken_iff fun more => ?_
    simp only [awaited_none_iff]
    rw [letters_plain_iff hquote (ne_backslash hend hback)]
    exact and_iff_right (by omega)

theorem Reader.accepts_textBody :
    Reader.textBody.Accepts fun cs s rest => Letters cs s.toList rest := by
  intro c s rest
  refine (textFrom_ok_iff (by simp)).trans ?_
  simp only [List.reverse_nil, List.nil_append, awaited_none_iff]
  constructor
  · rintro ⟨more, rfl, hmore⟩
    rwa [String.toList_ofList]
  · intro hletters
    exact ⟨s.toList, String.ofList_toList.symm, hletters⟩

end GoldenSuite.Json
