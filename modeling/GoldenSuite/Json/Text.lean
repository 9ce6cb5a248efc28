import GoldenSuite.Json.Cursor

/-!
# Texts in JSON

The characters of a text stand between double quotes, as they are or escaped. An escape with
four hexadecimal digits stands for a UTF-16 unit; two units that make up a pair stand for one
character.
-/

namespace GoldenSuite.Json

/-! ### Escapes -/

/-- The value of a hexadecimal digit. -/
def hexDigit? (c : Char) : Option Nat :=
  if '0' ≤ c ∧ c ≤ '9' then some (c.toNat - '0'.toNat)
  else if 'a' ≤ c ∧ c ≤ 'f' then some (c.toNat - 'a'.toNat + 10)
  else if 'A' ≤ c ∧ c ≤ 'F' then some (c.toNat - 'A'.toNat + 10)
  else none

/-- The value of hexadecimal digits, the most significant first. -/
def hexValue? (digits : List Char) : Option Nat :=
  digits.foldlM (fun value c => (hexDigit? c).map (value * 16 + ·)) 0

/-- The character that a short escape stands for. -/
def shortEscape? (c : Char) : Option Char :=
  match c with
  | '"' => some '"'
  | '\\' => some '\\'
  | '/' => some '/'
  | 'b' => some '\x08'
  | 'f' => some '\x0C'
  | 'n' => some '\n'
  | 'r' => some '\r'
  | 't' => some '\t'
  | _ => none

/-- Whether a UTF-16 unit is the first of a pair. -/
def isHighUnit (unit : Nat) : Bool :=
  0xD800 ≤ unit && unit ≤ 0xDBFF

/-- Whether a UTF-16 unit is the second of a pair. -/
def isLowUnit (unit : Nat) : Bool :=
  0xDC00 ≤ unit && unit ≤ 0xDFFF

/-- The character that a pair of UTF-16 units stands for. -/
def pairedChar (high low : Nat) : Char :=
  Char.ofNat ((high - 0xD800) * 0x400 + (low - 0xDC00) + 0x10000)

/-! ### Reading -/

/-- What is wrong with an escape that has no four hexadecimal digits. The cursor is after the
`u`. Fewer than four bytes are the end of the text. -/
def badDigits (c : Cursor) : Problem :=
  if Text.byteWidth c.rest < 4 then c.problemAtEnd .endInText
  else c.problemAfter 4 .invalidEscape

/-- Reads a text after its opening quote. The characters read so far are kept in reverse;
`high` is a UTF-16 unit whose partner has to follow. -/
def textFrom (line column : Nat) (read : List Char) (high : Option Nat) :
    List Char → Except Problem (String × Cursor)
  | [] => .error ⟨.endInText, line, column⟩
  | ['\\'] => .error ⟨.endInText, line, column + 1⟩
  | '\\' :: 'u' :: a :: b :: c :: d :: rest =>
    match hexValue? [a, b, c, d] with
    | none => .error (badDigits ⟨a :: b :: c :: d :: rest, line, column + 2⟩)
    | some unit =>
      match high with
      | some first =>
        if isLowUnit unit then textFrom line (column + 6) (pairedChar first unit :: read) none rest
        else .error ⟨.unpairedEscape, line, column + 6⟩
      | none =>
        if isLowUnit unit then .error ⟨.unpairedEscape, line, column + 6⟩
        else if isHighUnit unit then textFrom line (column + 6) read (some unit) rest
        else textFrom line (column + 6) (Char.ofNat unit :: read) none rest
  | '\\' :: 'u' :: rest => .error (badDigits ⟨rest, line, column + 2⟩)
  | '\\' :: c :: rest =>
    let after : Cursor := ⟨c :: rest, line, column + 1⟩
    if high.isSome then .error (after.problemNext .incompletePair)
    else match shortEscape? c with
      | some char => textFrom line (column + 2) (char :: read) none rest
      | none => .error (after.problemNext .invalidEscape)
  | c :: rest =>
    let before : Cursor := ⟨c :: rest, line, column⟩
    if high.isSome then .error (before.problemNext .incompletePair)
    else if c = '"' then .ok (String.ofList read.reverse, ⟨rest, line, column + 1⟩)
    else if c.toNat < 0x20 then .error (before.problemNext .controlCharacter)
    else textFrom line (column + c.utf8Size) (c :: read) none rest

/-- Reads a text after its opening quote. -/
def Reader.textBody : Reader String :=
  fun c => textFrom c.line c.column [] none c.rest

end GoldenSuite.Json
