import GoldenSuite.Json.Text
import Mathlib.Tactic.IntervalCases

/-!
# The grammar of JSON

What a JSON text is, said without readers. Each relation holds between a text, what the text starts
with, and the rest that follows: `Quoted cs s rest` says that `cs` starts with a spelling of `s`
between quotes and goes on with `rest`.
-/

namespace GoldenSuite.Json

/-! ### Blanks -/

def blanks : List Char := [' ', '\t', '\n', '\r']

/-- Any number of blank characters. -/
inductive Blanks : List Char → List Char → Prop
  | none {cs} : Blanks cs cs
  | some {c cs rest} : c ∈ blanks → Blanks cs rest → Blanks (c :: cs) rest

/-- The text does not start with a blank character. -/
def Fresh (cs : List Char) : Prop :=
  ∀ c ∈ cs.head?, c ∉ blanks

theorem fresh_cons {c : Char} {cs : List Char} (h : c ∉ blanks) : Fresh (c :: cs) := by
  simpa [Fresh] using h

theorem blanks_iff {cs rest : List Char} :
    Blanks cs rest ↔ ∃ blank, (∀ c ∈ blank, c ∈ blanks) ∧ cs = blank ++ rest := by
  constructor
  · intro h
    induction h with
    | none => exact ⟨[], by simp, rfl⟩
    | @some c cs rest hc _ ih =>
      obtain ⟨blank, hblank, rfl⟩ := ih
      exact ⟨c :: blank, by simpa [hc] using hblank, rfl⟩
  · rintro ⟨blank, hblank, rfl⟩
    induction blank with
    | nil => exact .none
    | cons c more ih =>
      have hc := hblank c (List.mem_cons_self ..)
      exact .some hc (ih fun d hd => hblank d (List.mem_cons_of_mem _ hd))

theorem Blanks.trans {cs mid rest : List Char} (h : Blanks cs mid) (h' : Blanks mid rest) :
    Blanks cs rest := by
  induction h with
  | none => exact h'
  | some hc _ ih => exact .some hc (ih h')

/-- All blank characters at the start of a text are passed over. -/
theorem blanks_iff_eq_dropWhile {cs rest : List Char} (hrest : Fresh rest) :
    Blanks cs rest ↔ rest = cs.dropWhile (· ∈ blanks) := by
  constructor
  · intro h
    induction h with
    | @none cs =>
      cases cs with
      | nil => rfl
      | cons c more =>
        have hc : c ∉ blanks := hrest c rfl
        rw [List.dropWhile_cons_of_neg (by simpa using hc)]
    | @some c cs rest hc _ ih =>
      rw [List.dropWhile_cons_of_pos (by simpa using hc)]
      exact ih hrest
  · rintro rfl
    refine blanks_iff.mpr ⟨cs.takeWhile (· ∈ blanks), fun c hc => ?_, ?_⟩
    · have := List.all_eq_true.mp (List.all_takeWhile (p := (· ∈ blanks)) (l := cs)) c hc
      simpa using this
    · exact List.takeWhile_append_dropWhile.symm

theorem fresh_dropWhile (cs : List Char) : Fresh (cs.dropWhile (· ∈ blanks)) := by
  intro c hc
  have := List.head?_dropWhile_not (· ∈ blanks) cs
  rw [Option.mem_def] at hc
  rw [hc] at this
  simpa using this

theorem Blanks.unique {cs rest rest' : List Char} (h : Blanks cs rest) (h' : Blanks cs rest')
    (hrest : Fresh rest) (hrest' : Fresh rest') : rest = rest' := by
  rw [(blanks_iff_eq_dropWhile hrest).mp h, (blanks_iff_eq_dropWhile hrest').mp h']

theorem Blanks.next_unique {cs more more' : List Char} {c d : Char} (h : Blanks cs (c :: more))
    (h' : Blanks cs (d :: more')) (hc : c ∉ blanks) (hd : d ∉ blanks) : c = d ∧ more = more' :=
  List.cons.inj (h.unique h' (fresh_cons hc) (fresh_cons hd))

/-- What the relation tells, perhaps after blank characters. -/
def Spaced {α : Type} (item : List Char → α → List Char → Prop) (cs : List Char) (a : α)
    (rest : List Char) : Prop :=
  ∃ mid, Blanks cs mid ∧ item mid a rest

/-! ### Quoted texts -/

def lowerDigits : List Char := "0123456789abcdef".toList

def upperDigits : List Char := "0123456789ABCDEF".toList

def HexDigit (d : Char) (value : Nat) : Prop :=
  lowerDigits[value]? = some d ∨ upperDigits[value]? = some d

/-- Four hexadecimal digits, the most significant first. -/
inductive Hex : List Char → Nat → List Char → Prop
  | four {a b c d : Char} {w x y z : Nat} {rest : List Char} : HexDigit a w → HexDigit b x →
      HexDigit c y → HexDigit d z →
      Hex (a :: b :: c :: d :: rest) (((w * 16 + x) * 16 + y) * 16 + z) rest

/-- What may follow a backslash, and the characters that are meant. -/
def shortEscapes : List (Char × Char) :=
  [('"', '"'), ('\\', '\\'), ('/', '/'), ('b', '\x08'), ('f', '\x0C'), ('n', '\n'), ('r', '\r'),
   ('t', '\t')]

/-- A character as it may stand between quotes: as it is, escaped by a letter, or as one or two
UTF-16 units. -/
inductive Letter : List Char → Char → List Char → Prop
  | plain {c rest} : c ≠ '"' → c ≠ '\\' → 0x20 ≤ c.toNat → Letter (c :: rest) c rest
  | short {e c rest} : (e, c) ∈ shortEscapes → Letter ('\\' :: e :: rest) c rest
  | unit {cs c rest} : Hex cs c.toNat rest → Letter ('\\' :: 'u' :: cs) c rest
  | pair {cs c mid rest} : 0x10000 ≤ c.toNat →
      Hex cs (0xD800 + (c.toNat - 0x10000) / 0x400) ('\\' :: 'u' :: mid) →
      Hex mid (0xDC00 + (c.toNat - 0x10000) % 0x400) rest → Letter ('\\' :: 'u' :: cs) c rest

/-- Characters up to the closing quote. -/
inductive Letters : List Char → List Char → List Char → Prop
  | close {rest} : Letters ('"' :: rest) [] rest
  | letter {cs c mid s rest} : Letter cs c mid → Letters mid s rest → Letters cs (c :: s) rest

/-- A text between quotes. -/
inductive Quoted : List Char → String → List Char → Prop
  | mk {cs s rest} : Letters cs s.toList rest → Quoted ('"' :: cs) s rest

/-- The character needs no escape. -/
def needsNone (c : Char) : Bool :=
  c != '"' && c != '\\' && 0x20 ≤ c.toNat

theorem letters_plain {s rest : List Char} (h : s.all needsNone) :
    Letters (s ++ '"' :: rest) s rest := by
  induction s with
  | nil => exact .close
  | cons c others ih =>
    rw [List.all_cons, Bool.and_eq_true] at h
    have hnone : (c ≠ '"' ∧ c ≠ '\\') ∧ 0x20 ≤ c.toNat := by simpa [needsNone] using h.1
    exact .letter (.plain hnone.1.1 hnone.1.2 hnone.2) (ih h.2)

theorem quoted_iff {cs rest : List Char} {s : String} :
    Quoted cs s rest ↔ ∃ more, cs = '"' :: more ∧ Letters more s.toList rest := by
  constructor
  · rintro ⟨hletters⟩
    exact ⟨_, rfl, hletters⟩
  · rintro ⟨more, rfl, hletters⟩
    exact .mk hletters

/-! ### Words and numerals -/

/-- The text starts with a word. -/
def Word (word : String) (cs : List Char) (_ : Unit) (rest : List Char) : Prop :=
  cs = word.toList ++ rest

/-- One of the two truth values, by its word. -/
def Flag (cs : List Char) (b : Bool) (rest : List Char) : Prop :=
  cs = (toString b).toList ++ rest

/-- The decimal digits of an integer of 64 bits. -/
def Numeral (cs : List Char) (n : Nat) (rest : List Char) : Prop :=
  n < 2 ^ 64 ∧ cs = Nat.toDigits 10 n ++ rest

/-- A number does not go on here. -/
def EndsNumeral (rest : List Char) : Prop :=
  ∀ c ∈ rest.head?, c.isDigit = false ∧ c ∉ ['.', 'e', 'E']

/-! ### Sequences -/

/-- What stands before an item: blank characters, with a comma among them unless the item is the
first. -/
inductive Lead : Bool → List Char → List Char → Prop
  | first {cs rest} : Blanks cs rest → Lead true cs rest
  | comma {cs mid rest} : Blanks cs (',' :: mid) → Blanks mid rest → Lead false cs rest

/-- Items with commas between them, and the closing bracket; the flag says whether the sequence is
at its start. -/
inductive Items {α : Type} (item : List Char → α → List Char → Prop) (close : Char) :
    Bool → List Char → List α → List Char → Prop
  | close {first cs rest} : Blanks cs (close :: rest) → Items item close first cs [] rest
  | item {first cs mid a more as rest} : Lead first cs mid → item mid a more →
      Items item close false more as rest → Items item close first cs (a :: as) rest

/-- A sequence between its brackets. -/
inductive Enclosed {α : Type} (opening close : Char) (item : List Char → α → List Char → Prop) :
    List Char → List α → List Char → Prop
  | mk {cs as rest} : Items item close true cs as rest →
      Enclosed opening close item (opening :: cs) as rest

/-- The name of a field, a colon and its value. -/
inductive Member {α : Type} (key : α → String) (value : List Char → α → List Char → Prop) :
    List Char → α → List Char → Prop
  | mk {cs a mid after rest} : Quoted cs (key a) mid → Blanks mid (':' :: after) →
      Spaced value after a rest → Member key value cs a rest

/-- A text with nothing but one item, among blank characters. -/
def Document {α : Type} (item : List Char → α → List Char → Prop) (text : String) (a : α) : Prop :=
  ∃ after, Spaced item text.toList a after ∧ Blanks after []

/-! ### Where items end -/

/-- The characters that cannot start a value or be part of a number. -/
def closing : List Char := blanks ++ [',', ']', '\x7d']

/-- Each item has a first character, which is not a closing one, and is used up by the item. -/
structure Solid {α : Type} (item : List Char → α → List Char → Prop) : Prop where
  starts {cs a rest} : item cs a rest → ∃ c more, cs = c :: more ∧ c ∉ closing
  shorter {cs a rest} : item cs a rest → rest.length < cs.length

theorem notMem_blanks_of_closing {c : Char} (h : c ∉ closing) : c ∉ blanks := by
  intro hc
  exact h (List.mem_append_left _ hc)

theorem Solid.fresh {α : Type} {item : List Char → α → List Char → Prop} (h : Solid item)
    {cs rest : List Char} {a : α} (ha : item cs a rest) : Fresh cs := by
  obtain ⟨c, more, rfl, hc⟩ := h.starts ha
  exact fresh_cons (notMem_blanks_of_closing hc)

theorem Blanks.length_le {cs rest : List Char} (h : Blanks cs rest) : rest.length ≤ cs.length := by
  induction h with
  | none => exact Nat.le_refl _
  | some _ _ ih => exact Nat.le_succ_of_le ih

theorem Letters.length_lt {cs s rest : List Char} (h : Letters cs s rest) :
    rest.length < cs.length := by
  have hhex : ∀ {cs unit rest}, Hex cs unit rest → rest.length < cs.length := by
    rintro cs unit rest ⟨⟩
    simp only [List.length_cons]
    omega
  induction h with
  | close => simp
  | letter hletter _ ih =>
    have hlt : ∀ {cs c mid}, Letter cs c mid → mid.length < cs.length := by
      rintro cs c mid (_ | _ | hunit | ⟨-, hhigh, hlow⟩)
      · simp
      · simp only [List.length_cons]
        omega
      · have := hhex hunit
        simp only [List.length_cons]
        omega
      · have := hhex hhigh
        have := hhex hlow
        simp only [List.length_cons] at *
        omega
    exact ih.trans (hlt hletter)

theorem solid_quoted : Solid Quoted where
  starts := by
    rintro cs s rest ⟨⟩
    exact ⟨'"', _, rfl, by decide⟩
  shorter := by
    rintro cs s rest ⟨hletters⟩
    have := hletters.length_lt
    simp only [List.length_cons]
    omega

section
variable {α : Type} {item : List Char → α → List Char → Prop} {close : Char}

theorem Lead.length_le {first : Bool} {cs mid : List Char} (h : Lead first cs mid) :
    mid.length ≤ cs.length := by
  cases h with
  | first hblanks => exact hblanks.length_le
  | comma hcomma hblanks =>
    have := hcomma.length_le
    have := hblanks.length_le
    simp only [List.length_cons] at *
    omega

theorem Lead.blanks {first : Bool} {cs mid rest : List Char} (h : Lead first cs mid)
    (h' : Blanks mid rest) : Lead first cs rest := by
  cases h with
  | first hblanks => exact .first (hblanks.trans h')
  | comma hcomma hblanks => exact .comma hcomma (hblanks.trans h')

/-- There are no more items than characters, for the closing bracket is one as well. -/
theorem Items.length_lt {first : Bool} {cs rest : List Char} {as : List α}
    (hsolid : Solid item) (h : Items item close first cs as rest) :
    as.length + rest.length < cs.length := by
  induction h with
  | close hblanks =>
    have := hblanks.length_le
    simp only [List.length_cons, List.length_nil] at *
    omega
  | item hlead hitem _ ih =>
    have := hlead.length_le
    have := hsolid.shorter hitem
    simp only [List.length_cons] at *
    omega

theorem solid_member {key : α → String} (hvalue : Solid item) : Solid (Member key item) where
  starts := by
    rintro cs a rest ⟨hkey, -, -⟩
    exact solid_quoted.starts hkey
  shorter := by
    rintro cs a rest ⟨hkey, hcolon, mid, hblanks, hitem⟩
    have := solid_quoted.shorter hkey
    have := hcolon.length_le
    have := hblanks.length_le
    have := hvalue.shorter hitem
    simp only [List.length_cons] at *
    omega

theorem solid_enclosed {opening : Char} (hopening : opening ∉ closing) (hitem : Solid item) :
    Solid (Enclosed opening close item) where
  starts := by
    rintro cs as rest ⟨hitems⟩
    exact ⟨opening, _, rfl, hopening⟩
  shorter := by
    rintro cs as rest ⟨hitems⟩
    have := hitems.length_lt hitem
    simp only [List.length_cons]
    omega

theorem items_nil_iff {first : Bool} {cs rest : List Char} :
    Items item close first cs [] rest ↔ Blanks cs (close :: rest) := by
  constructor
  · rintro ⟨h⟩
    exact h
  · exact .close

theorem items_cons_iff {first : Bool} {cs rest : List Char} {a : α} {as : List α} :
    Items item close first cs (a :: as) rest ↔ ∃ mid more, Lead first cs mid ∧ item mid a more ∧
      Items item close false more as rest := by
  constructor
  · intro h
    cases h with
    | item hlead hitem hmore => exact ⟨_, _, hlead, hitem, hmore⟩
  · rintro ⟨mid, more, hlead, hitem, hmore⟩
    exact .item hlead hitem hmore

end

end GoldenSuite.Json
