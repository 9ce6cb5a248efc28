import GoldenSuite.Json.Number
import GoldenSuite.Proofs.Json.Readers

/-!
# Reading integers of 64 bits

Of the numbers that `number` reads, only the decimal digits of an integer that fits into 64 bits,
without a sign, a fraction or an exponent behind them, become a natural number; all others become a
negative integer or a double.
-/

namespace GoldenSuite.Json

/-! ### Digits -/

theorem digitValue_lt {c : Char} (h : c.isDigit) : digitValue c < 10 := by
  have hrange : 48 ≤ c.toNat ∧ c.toNat ≤ 57 := by
    simpa [Char.isDigit, UInt32.le_iff_toNat_le] using h
  unfold digitValue
  simp only [Char.reduceToNat]
  omega

theorem digitChar_digitValue {c : Char} (h : c.isDigit) : (digitValue c).digitChar = c := by
  have hrange : 48 ≤ c.toNat ∧ c.toNat ≤ 57 := by
    simpa [Char.isDigit, UInt32.le_iff_toNat_le] using h
  have hcode : ∀ code, c.toNat = code → c = Char.ofNat code := by
    rintro code rfl
    exact (Char.ofNat_toNat c).symm
  obtain ⟨hlow, hhigh⟩ := hrange
  generalize hn : c.toNat = code at *
  interval_cases code <;> cases hcode _ rfl <;> decide

theorem digitValue_pos {c : Char} (h : c.isDigit) (hzero : c ≠ '0') : 0 < digitValue c := by
  rcases Nat.eq_zero_or_pos (digitValue c) with hvalue | hpos
  · have := digitChar_digitValue h
    rw [hvalue] at this
    exact absurd this.symm hzero
  · exact hpos

/-- Digits that are appended to a number other than zero are the last digits of the result. -/
theorem toDigits_ofDigitChars {ds : List Char} {n : Nat} (hds : ∀ d ∈ ds, d.isDigit) (hn : 0 < n) :
    Nat.toDigits 10 (Nat.ofDigitChars 10 ds n) = Nat.toDigits 10 n ++ ds := by
  induction ds generalizing n with
  | nil => simp
  | cons d others ih =>
    have hd := hds d (List.mem_cons_self ..)
    have hlt := digitValue_lt hd
    rw [Nat.ofDigitChars_cons, ih (fun c hc => hds c (List.mem_cons_of_mem _ hc)) (by omega)]
    have happend := Nat.toDigits_append_toDigits (by decide : 1 < 10) hn hlt
    rw [Nat.toDigits_of_lt_base hlt, digitChar_digitValue hd] at happend
    change Nat.toDigits 10 (10 * n + digitValue d) ++ others = _
    rw [← happend, List.append_assoc, List.singleton_append]

theorem le_ofDigitChars (ds : List Char) (n : Nat) : n ≤ Nat.ofDigitChars 10 ds n := by
  induction ds generalizing n with
  | nil => simp
  | cons d others ih =>
    rw [Nat.ofDigitChars_cons]
    have := ih (10 * n + (d.toNat - '0'.toNat))
    omega

theorem accumulate_of_le {significand count : Nat} {ds : List Char}
    (h : Nat.ofDigitChars 10 ds significand ≤ largest64) :
    accumulate significand count ds =
      (Nat.ofDigitChars 10 ds significand, count + ds.length) := by
  induction ds generalizing significand count with
  | nil => rfl
  | cons d others ih =>
    have hnext : 10 * significand + (d.toNat - '0'.toNat) = significand * 10 + digitValue d := by
      rw [digitValue, Nat.mul_comm]
    rw [Nat.ofDigitChars_cons, hnext] at h ⊢
    have hfits := (le_ofDigitChars others _).trans h
    rw [accumulate, if_neg (by omega), ih h, List.length_cons]
    congr 1
    omega

theorem accumulate_spec {significand count : Nat} {ds : List Char} (h : significand ≤ largest64)
    (hall : count + ds.length ≤ (accumulate significand count ds).2) :
    (accumulate significand count ds).1 = Nat.ofDigitChars 10 ds significand ∧
      Nat.ofDigitChars 10 ds significand ≤ largest64 := by
  induction ds generalizing significand count with
  | nil => simpa [accumulate] using h
  | cons d others ih =>
    have hnext : 10 * significand + (d.toNat - '0'.toNat) = significand * 10 + digitValue d := by
      rw [digitValue, Nat.mul_comm]
    rw [Nat.ofDigitChars_cons, hnext]
    rw [List.length_cons] at hall
    by_cases hlarge : largest64 < significand * 10 + digitValue d
    · -- Counting stops here, so not all digits have been counted.
      rw [accumulate, if_pos hlarge] at hall
      simp only at hall
      omega
    · rw [accumulate, if_neg hlarge] at hall ⊢
      exact ih (by omega) (by omega)

/-! ### Readers that yield natural numbers -/

namespace Reader

/-- The reader yields a natural number for what the relation describes; what it yields for other
texts is left open. -/
def AcceptsNatural (r : Reader Number) (item : List Char → Nat → List Char → Prop) : Prop :=
  ∀ c n rest, r.Yields c (.natural n) rest ↔ item c.rest n rest

theorem AcceptsNatural.congr {r : Reader Number} {item item' : List Char → Nat → List Char → Prop}
    (h : r.AcceptsNatural item) (hiff : ∀ cs n rest, item cs n rest ↔ item' cs n rest) :
    r.AcceptsNatural item' :=
  fun c n rest => (h c n rest).trans (hiff c.rest n rest)

theorem Accepts.bindNatural {α : Type} {r : Reader α} {f : α → Reader Number}
    {first : List Char → α → List Char → Prop} {second : α → List Char → Nat → List Char → Prop}
    (hr : r.Accepts first) (hf : ∀ a, (f a).AcceptsNatural (second a)) :
    (r >>= f).AcceptsNatural fun cs n rest => ∃ a mid, first cs a mid ∧ second a mid n rest := by
  intro c n rest
  rw [yields_bind_iff]
  constructor
  · rintro ⟨a, after, hok, hrest⟩
    exact ⟨a, after.rest, (hr c a after.rest).mp ⟨after, hok, rfl⟩, (hf a after n rest).mp hrest⟩
  · rintro ⟨a, mid, hfirst, hsecond⟩
    obtain ⟨after, hok, rfl⟩ := (hr c a mid).mpr hfirst
    exact ⟨a, after, hok, (hf a after n rest).mpr hsecond⟩

/-- The reader yields no natural number. -/
def NoNatural (r : Reader Number) : Prop :=
  r.AcceptsNatural fun _ _ _ => False

theorem Stops.noNatural {r : Reader Number} (h : r.Stops) : r.NoNatural :=
  fun c n rest => h c (.natural n) rest

theorem noNatural_bind {α : Type} {r : Reader α} {f : α → Reader Number}
    (h : ∀ a, (f a).NoNatural) : (r >>= f).NoNatural := by
  intro c n rest
  rw [yields_bind_iff, iff_false]
  rintro ⟨a, after, -, hrest⟩
  exact (h a after n rest).mp hrest

theorem noNatural_pure {value : Number} (h : ∀ n, value ≠ .natural n) :
    (pure value : Reader Number).NoNatural := by
  intro c n rest
  rw [accepts_pure, iff_false]
  rintro ⟨heq, -⟩
  exact h n heq.symm

theorem noNatural_assemble (negative : Bool) (significand : Nat) (exponent : Int) :
    (assemble negative significand exponent).NoNatural := by
  unfold assemble
  split
  · exact (stops_fail _).noNatural
  · exact noNatural_pure (by simp)

theorem noNatural_exponent (negative : Bool) (significand : Nat) (start : Int) :
    (exponent negative significand start).NoNatural := by
  unfold exponent
  refine noNatural_bind fun sign => ?_
  extract_lets afterSign
  have hafterSign : ∀ below, (afterSign below).NoNatural := by
    intro below
    refine noNatural_bind fun next => ?_
    split
    · exact (stops_fail _).noNatural
    split
    · exact (stops_failNext _).noNatural
    refine noNatural_bind fun before => noNatural_bind fun ds => ?_
    split
    · exact noNatural_assemble _ _ _
    split
    · exact (stops_of_error fun c => ⟨_, rfl⟩).noNatural
    · exact noNatural_pure (by simp)
  split
  · exact noNatural_bind fun _ => noNatural_bind hafterSign
  · exact noNatural_bind fun _ => noNatural_bind hafterSign
  · exact noNatural_bind hafterSign

theorem NoNatural.acceptsNatural {r : Reader Number} {item : List Char → Nat → List Char → Prop}
    (h : r.NoNatural) (hitem : ∀ cs n rest, ¬ item cs n rest) : r.AcceptsNatural item :=
  h.congr fun cs n rest => (iff_of_false id (hitem cs n rest))

theorem acceptsNatural_look {f : Option Char → Reader Number}
    {item : Option Char → List Char → Nat → List Char → Prop}
    (h : ∀ next, (f next).AcceptsNatural (item next)) :
    (peek >>= f).AcceptsNatural fun cs n rest => item cs.head? cs n rest := by
  refine (accepts_peek.bindNatural h).congr fun cs n rest => ?_
  constructor
  · rintro ⟨next, mid, ⟨rfl, rfl⟩, hitem⟩
    exact hitem
  · intro hitem
    exact ⟨cs.head?, cs, ⟨rfl, rfl⟩, hitem⟩

theorem acceptsNatural_natural (value : Nat) :
    (pure (.natural value) : Reader Number).AcceptsNatural fun cs n rest =>
      n = value ∧ rest = cs := by
  intro c n rest
  refine (accepts_pure (Number.natural value) c (.natural n) rest).trans ?_
  simp only [Number.natural.injEq]

theorem acceptsNatural_fraction (negative : Bool) (significand dropped : Nat) :
    (fraction negative significand dropped).AcceptsNatural fun cs n rest =>
      (∀ c ∈ cs.head?, c ∉ ['.', 'e', 'E']) ∧
        negative = false ∧ dropped = 0 ∧ n = significand ∧ rest = cs := by
  unfold fraction
  refine @acceptsNatural_look _ (fun next cs n rest => (∀ c ∈ next, c ∉ ['.', 'e', 'E']) ∧
      negative = false ∧ dropped = 0 ∧ n = significand ∧ rest = cs) fun next => ?_
  split
  · refine NoNatural.acceptsNatural ?_ (by simp)
    refine noNatural_bind fun _ => noNatural_bind fun ds => ?_
    split
    · refine noNatural_bind fun after => ?_
      split
      · exact (stops_failNext _).noNatural
      · exact (stops_failNext _).noNatural
    · refine noNatural_bind fun after => ?_
      split
      · exact noNatural_bind fun _ => noNatural_exponent _ _ _
      · exact noNatural_bind fun _ => noNatural_exponent _ _ _
      · exact noNatural_assemble _ _ _
  · exact NoNatural.acceptsNatural (noNatural_bind fun _ => noNatural_exponent _ _ _) (by simp)
  · exact NoNatural.acceptsNatural (noNatural_bind fun _ => noNatural_exponent _ _ _) (by simp)
  · next _ hpoint he hE =>
    have hnext : ∀ c ∈ next, c ∉ ['.', 'e', 'E'] := by
      intro c hc
      simp only [List.mem_cons, List.not_mem_nil, or_false, not_or]
      refine ⟨?_, ?_, ?_⟩
      · rintro rfl
        exact hpoint hc
      · rintro rfl
        exact he hc
      · rintro rfl
        exact hE hc
    split
    · next hdropped =>
      exact NoNatural.acceptsNatural (noNatural_assemble _ _ _) (by omega)
    split
    · next hdropped hpositive =>
      refine (acceptsNatural_natural significand).congr fun cs n rest => ?_
      have hzero : dropped = 0 := by omega
      have hfalse : negative = false := by simpa using hpositive
      exact (and_iff_right hfalse |>.trans (and_iff_right hzero)).symm.trans
        (and_iff_right hnext).symm
    · next hdropped hnegative =>
      have htrue : negative = true := by simpa using hnegative
      refine NoNatural.acceptsNatural ?_ (by simp [htrue])
      split
      · exact noNatural_pure (by simp)
      · exact noNatural_pure (by simp)

theorem accepts_digits : digits.Accepts fun cs ds rest =>
    cs = ds ++ rest ∧ (∀ d ∈ ds, d.isDigit) ∧ ∀ c ∈ rest.head?, c.isDigit = false := by
  intro c ds rest
  constructor
  · rintro ⟨after, hok, rfl⟩
    cases hok
    refine ⟨List.takeWhile_append_dropWhile.symm, fun d hd => ?_, fun d hd => ?_⟩
    · exact List.all_eq_true.mp List.all_takeWhile d hd
    · have := List.head?_dropWhile_not Char.isDigit c.rest
      rw [Option.mem_def.mp hd] at this
      simpa using this
  · rintro ⟨hcs, hds, hrest⟩
    have htake : c.rest.takeWhile Char.isDigit = ds ∧ c.rest.dropWhile Char.isDigit = rest := by
      rw [hcs, List.takeWhile_append_of_pos hds, List.dropWhile_append_of_pos hds]
      cases rest with
      | nil => simp
      | cons d others => simp [hrest d rfl]
    exact ⟨⟨rest, c.line, c.column + ds.length⟩, by simp [digits, htake], rfl⟩

theorem toDigits_eq_cons_iff {c : Char} {ds : List Char} {n : Nat} (hc : c.isDigit)
    (hzero : c ≠ '0') (hds : ∀ d ∈ ds, d.isDigit) :
    Nat.toDigits 10 n = c :: ds ↔ n = Nat.ofDigitChars 10 (c :: ds) 0 := by
  have hvalue := toDigits_ofDigitChars hds (digitValue_pos hc hzero)
  rw [Nat.toDigits_of_lt_base (digitValue_lt hc), digitChar_digitValue hc] at hvalue
  have hcons : Nat.ofDigitChars 10 (c :: ds) 0 = Nat.ofDigitChars 10 ds (digitValue c) := by
    rw [Nat.ofDigitChars_cons, Nat.mul_zero, Nat.zero_add, digitValue]
  constructor
  · intro hn
    rw [← hn, Nat.ofDigitChars_toDigits (by decide) (by decide)]
  · rintro rfl
    rw [hcons, hvalue, List.singleton_append]

theorem head?_toDigits_ne_zero {n : Nat} (hn : 0 < n) : (Nat.toDigits 10 n).head? ≠ some '0' := by
  induction n using Nat.strongRecOn with
  | ind n ih =>
    rcases Nat.lt_or_ge n 10 with hlt | hge
    · rw [Nat.toDigits_of_lt_base hlt]
      interval_cases n <;> decide
    · rw [Nat.toDigits_of_base_le (by decide) hge]
      have hhead := ih (n / 10) (by omega) (by omega)
      cases hds : Nat.toDigits 10 (n / 10) with
      | nil => exact absurd hds Nat.toDigits_ne_nil
      | cons d ds => simpa [hds] using hhead

theorem numeral_zero_iff {cs rest : List Char} {n : Nat} :
    Numeral ('0' :: cs) n rest ↔ n = 0 ∧ rest = cs := by
  constructor
  · rintro ⟨-, hcs⟩
    rcases Nat.eq_zero_or_pos n with rfl | hpos
    · rw [Nat.toDigits_zero, List.singleton_append, List.cons.injEq] at hcs
      exact ⟨rfl, hcs.2.symm⟩
    · have hhead := head?_toDigits_ne_zero hpos
      cases hds : Nat.toDigits 10 n with
      | nil => exact absurd hds Nat.toDigits_ne_nil
      | cons d ds =>
        rw [hds, List.cons_append, List.cons.injEq] at hcs
        simp [hds, hcs.1.symm] at hhead
  · rintro ⟨rfl, rfl⟩
    exact ⟨by decide, by rw [Nat.toDigits_zero, List.singleton_append]⟩

theorem isDigit_of_mem_toDigits {n : Nat} {d : Char} (h : d ∈ Nat.toDigits 10 n) :
    d.isDigit :=
  Nat.isDigit_of_mem_toDigits (by decide) (by decide) h

theorem head?_of_numeral {cs rest : List Char} {n : Nat} (h : Numeral cs n rest) :
    ∃ c more, cs = c :: more ∧ c.isDigit := by
  obtain ⟨-, rfl⟩ := h
  cases hds : Nat.toDigits 10 n with
  | nil => exact absurd hds Nat.toDigits_ne_nil
  | cons d ds =>
    refine ⟨d, ds ++ rest, rfl, isDigit_of_mem_toDigits (n := n) ?_⟩
    rw [hds]
    exact List.mem_cons_self ..

/-- Digits that do not start with zero are the decimal digits of their value. -/
theorem numeral_digits_iff {c : Char} {cs rest : List Char} {n : Nat} (hc : c.isDigit)
    (hzero : c ≠ '0') (hrest : EndsNumeral rest) : Numeral (c :: cs) n rest ↔
      ∃ ds, c :: cs = ds ++ rest ∧ (∀ d ∈ ds, d.isDigit) ∧ n = Nat.ofDigitChars 10 ds 0 ∧
        n ≤ largest64 := by
  constructor
  · rintro ⟨hlt, hcs⟩
    refine ⟨Nat.toDigits 10 n, hcs, fun d => isDigit_of_mem_toDigits, ?_, Nat.le_sub_one_of_lt hlt⟩
    exact (Nat.ofDigitChars_toDigits (by decide) (by decide)).symm
  · rintro ⟨ds, hcs, hds, hn, hle⟩
    cases ds with
    | nil =>
      have := (hrest c (by rw [← List.nil_append rest, ← hcs]; rfl)).1
      simp [hc] at this
    | cons d others =>
      obtain ⟨rfl, rfl⟩ := List.cons.inj hcs
      have hothers : ∀ d ∈ others, d.isDigit := fun d hd => hds d (List.mem_cons_of_mem _ hd)
      refine ⟨Nat.lt_of_le_pred (by decide) hle, ?_⟩
      rw [(toDigits_eq_cons_iff hc hzero hothers).mpr hn]
      rfl

/-- The digits of a number are all used when they fit into 64 bits. -/
theorem acceptsNatural_significand (negative : Bool) :
    (digits >>= fun ds => match accumulate 0 0 ds with
      | (significand, used) => fraction negative significand (ds.length - used)).AcceptsNatural
    fun cs n rest => negative = false ∧ EndsNumeral rest ∧
      ∃ ds, cs = ds ++ rest ∧ (∀ d ∈ ds, d.isDigit) ∧ n = Nat.ofDigitChars 10 ds 0 ∧
        n ≤ largest64 := by
  refine (accepts_digits.bindNatural fun ds =>
    acceptsNatural_fraction negative (accumulate 0 0 ds).1
      (ds.length - (accumulate 0 0 ds).2)).congr fun cs n rest => ?_
  constructor
  · rintro ⟨ds, mid, ⟨hcs, hds, hdigit⟩, hends, hnegative, hdropped, rfl, rfl⟩
    obtain ⟨hvalue, hle⟩ := @accumulate_spec 0 0 ds (Nat.zero_le _) (by omega)
    exact ⟨hnegative, fun c hc => ⟨hdigit c hc, hends c hc⟩, ds, hcs, hds, hvalue, hvalue ▸ hle⟩
  · rintro ⟨hnegative, hends, ds, hcs, hds, rfl, hle⟩
    have haccumulate := @accumulate_of_le 0 0 ds hle
    refine ⟨ds, rest, ⟨hcs, hds, fun c hc => (hends c hc).1⟩, fun c hc => (hends c hc).2,
      hnegative, ?_, ?_, rfl⟩
    · rw [haccumulate]
      omega
    · rw [haccumulate]

/-- No digit follows a zero at the start of a number. -/
theorem acceptsNatural_zero (negative : Bool) :
    (advance >>= fun _ => peek >>= fun next => match next with
      | some next => if next.isDigit then failNext .invalidNumber else fraction negative 0 0
      | none => fraction negative 0 0).AcceptsNatural
    fun cs n rest => negative = false ∧ EndsNumeral rest ∧ n = 0 ∧ rest = cs.tail := by
  refine (accepts_advance.bindNatural fun _ => @acceptsNatural_look _ (fun next cs n rest =>
    (∀ c ∈ next, c.isDigit = false) ∧ (∀ c ∈ cs.head?, c ∉ ['.', 'e', 'E']) ∧
      negative = false ∧ n = 0 ∧ rest = cs) fun next => ?_).congr fun cs n rest => ?_
  · cases next with
    | none =>
      refine (acceptsNatural_fraction negative 0 0).congr fun cs n rest => ?_
      simp
    | some c =>
      by_cases hc : c.isDigit
      · simp only [if_pos hc]
        exact (stops_failNext _).noNatural.acceptsNatural (by simp [hc])
      · simp only [if_neg hc]
        refine (acceptsNatural_fraction negative 0 0).congr fun cs n rest => ?_
        simp [hc]
  · constructor
    · rintro ⟨_, mid, rfl, hdigit, hends, hnegative, rfl, rfl⟩
      exact ⟨hnegative, fun c hc => ⟨hdigit c hc, hends c hc⟩, rfl, rfl⟩
    · rintro ⟨hnegative, hends, rfl, rfl⟩
      exact ⟨(), _, rfl, fun c hc => (hends c hc).1, fun c hc => (hends c hc).2, hnegative, rfl,
        rfl⟩

theorem acceptsNatural_number (negative : Bool) :
    (number negative).AcceptsNatural fun cs n rest =>
      negative = false ∧ Numeral cs n rest ∧ EndsNumeral rest := by
  refine (@acceptsNatural_look _ (fun next cs n rest => negative = false ∧ EndsNumeral rest ∧
    ∃ c, next = some c ∧ if c = '0' then n = 0 ∧ rest = cs.tail
      else c.isDigit ∧ ∃ ds, cs = ds ++ rest ∧ (∀ d ∈ ds, d.isDigit) ∧
        n = Nat.ofDigitChars 10 ds 0 ∧ n ≤ largest64) fun next => ?_).congr fun cs n rest => ?_
  · cases next with
    | none => exact (stops_fail _).noNatural.acceptsNatural (by simp)
    | some c =>
      by_cases hzero : c = '0'
      · simp only [if_pos hzero]
        refine (acceptsNatural_zero negative).congr fun cs n rest => ?_
        simp [hzero]
      simp only [if_neg hzero]
      by_cases hc : c.isDigit
      · simp only [if_pos hc]
        refine (acceptsNatural_significand negative).congr fun cs n rest => ?_
        simp [hzero, hc]
      · simp only [if_neg hc]
        exact (stops_failNext _).noNatural.acceptsNatural (by simp [hzero, hc])
  · refine and_congr_right fun _ => ?_
    rw [and_comm]
    refine and_congr_left fun hends => ?_
    cases cs with
    | nil => simp [Numeral]
    | cons c others =>
      simp only [List.head?_cons, Option.some.injEq, exists_eq_left', List.tail_cons]
      by_cases hzero : c = '0'
      · rw [if_pos hzero, hzero, numeral_zero_iff]
      rw [if_neg hzero]
      by_cases hc : c.isDigit
      · rw [numeral_digits_iff hc hzero hends]
        exact and_iff_right hc
      · refine iff_of_false (fun h => hc h.1) fun hnumeral => ?_
        obtain ⟨d, more, hcs, hd⟩ := head?_of_numeral hnumeral
        obtain rfl := (List.cons.inj hcs).1
        exact hc hd

end Reader

end GoldenSuite.Json
