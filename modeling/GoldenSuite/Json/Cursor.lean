import GoldenSuite.Text.Quoted
import GoldenSuite.Text.Utf8

/-!
# Reading a JSON text

A JSON text is read from left to right by readers, which take a cursor forward or stop with a
problem. A problem names what is wrong and the place: the line, from one on, and the number of
bytes of that line that have been used. What is wrong with a character that has only been looked
at is placed after its first byte.
-/

namespace GoldenSuite.Json

/-! ### Problems -/

/-- What was met where a value of another kind was expected. -/
inductive Found where
  | null
  | boolean (value : Bool)
  | integer (value : Int)
  /-- A number that is no integer of 64 bits, as it is written in a message. -/
  | real (shown : String)
  | text (value : String)
  | sequence
  | map
deriving DecidableEq, Repr

/-- A text between backquotes. -/
def backquoted (text : String) : String :=
  "`" ++ text ++ "`"

/-- The wording of what was met. -/
def Found.describe : Found → String
  | .null => "null"
  | .boolean value => "boolean " ++ backquoted (toString value)
  | .integer value => "integer " ++ backquoted (toString value)
  | .real shown => "floating point " ++ backquoted shown
  | .text value => s!"string {Text.quote value}"
  | .sequence => "sequence"
  | .map => "map"

/-- What is wrong with a text. -/
inductive Mistake where
  | endInValue
  | endInList
  | endInObject
  | endInText
  | expectedColon
  | expectedListSeparator
  | expectedObjectSeparator
  | expectedIdent
  | expectedValue
  | expectedKey
  | trailingComma
  | trailingCharacters
  | invalidNumber
  | numberOutOfRange
  | invalidEscape
  | unpairedEscape
  | incompletePair
  | controlCharacter
  /-- A value of the wrong kind. -/
  | wrongKind (found : Found) (expected : String)
  /-- A value of the right kind that is not allowed. -/
  | wrongValue (found : Found) (expected : String)
  | unknownField (name : String) (known : List String)
  | repeatedField (name : String)
  | unknownVariant (name : String) (known : List String)
deriving DecidableEq, Repr

/-- Names in backquotes, with a text between them. -/
def enumerate (between : String) (names : List String) : String :=
  between.intercalate (names.map backquoted)

/-- The wording of a mistake. -/
def Mistake.message : Mistake → String
  | .endInValue => "EOF while parsing a value"
  | .endInList => "EOF while parsing a list"
  | .endInObject => "EOF while parsing an object"
  | .endInText => "EOF while parsing a string"
  | .expectedColon => "expected `:`"
  | .expectedListSeparator => "expected `,` or `]`"
  | .expectedObjectSeparator => "expected `,` or `\x7d`"
  | .expectedIdent => "expected ident"
  | .expectedValue => "expected value"
  | .expectedKey => "key must be a string"
  | .trailingComma => "trailing comma"
  | .trailingCharacters => "trailing characters"
  | .invalidNumber => "invalid number"
  | .numberOutOfRange => "number out of range"
  | .invalidEscape => "invalid escape"
  | .unpairedEscape => "lone leading surrogate in hex escape"
  | .incompletePair => "unexpected end of hex escape"
  | .controlCharacter => "control character (\\u0000-\\u001F) found while parsing a string"
  | .wrongKind found expected => s!"invalid type: {found.describe}, expected {expected}"
  | .wrongValue found expected => s!"invalid value: {found.describe}, expected {expected}"
  | .unknownField name known =>
    s!"unknown field {backquoted name}, expected one of " ++ enumerate ", " known
  | .repeatedField name => s!"duplicate field {backquoted name}"
  | .unknownVariant name known =>
    s!"unknown variant {backquoted name}, expected " ++ enumerate " or " known

/-- A mistake and its place. -/
structure Problem where
  mistake : Mistake
  line : Nat
  column : Nat
deriving DecidableEq, Repr

/-- The wording of a problem. -/
def Problem.message (p : Problem) : String :=
  s!"{p.mistake.message} at line {p.line} column {p.column}"

/-! ### Cursors -/

/-- A place in a text and the characters from there on. -/
structure Cursor where
  rest : List Char
  line : Nat
  column : Nat
deriving DecidableEq, Repr

namespace Cursor

/-- The start of a text. -/
def ofText (text : String) : Cursor :=
  ⟨text.toList, 1, 0⟩

/-- Uses up the next character. -/
def advance (c : Cursor) : Cursor :=
  match c.rest with
  | [] => c
  | '\n' :: rest => ⟨rest, c.line + 1, 0⟩
  | char :: rest => ⟨rest, c.line, c.column + char.utf8Size⟩

/-- Uses up the blank characters of JSON. -/
def skipBlank (c : Cursor) : Cursor :=
  go c.line c.column c.rest
where
  go (line column : Nat) : List Char → Cursor
    | '\n' :: rest => go (line + 1) 0 rest
    | ' ' :: rest => go line (column + 1) rest
    | '\t' :: rest => go line (column + 1) rest
    | '\r' :: rest => go line (column + 1) rest
    | rest => ⟨rest, line, column⟩

def problem (c : Cursor) (mistake : Mistake) : Problem :=
  ⟨mistake, c.line, c.column⟩

/-- A problem that is placed some bytes further on, or at the end of a shorter text. -/
def problemAfter (c : Cursor) (count : Nat) (mistake : Mistake) : Problem :=
  go c.line c.column ((c.rest.take count).flatMap String.utf8EncodeChar |>.take count)
where
  go (line column : Nat) : Bytes → Problem
    | [] => ⟨mistake, line, column⟩
    | byte :: rest => if byte = 0x0A then go (line + 1) 0 rest else go line (column + 1) rest

/-- A problem with the character that comes next. -/
def problemNext (c : Cursor) (mistake : Mistake) : Problem :=
  c.problemAfter 1 mistake

/-- A problem at the end of the text. -/
def problemAtEnd (c : Cursor) (mistake : Mistake) : Problem :=
  c.problemAfter (Text.byteWidth c.rest) mistake

end Cursor

/-! ### Readers -/

/-- Takes a cursor forward and yields a value, or stops with a problem. -/
abbrev Reader (α : Type) := StateT Cursor (Except Problem) α

namespace Reader

/-- Stops with a problem at the cursor. -/
def fail {α : Type} (mistake : Mistake) : Reader α :=
  fun c => .error (c.problem mistake)

/-- Stops with a problem with the next character. -/
def failNext {α : Type} (mistake : Mistake) : Reader α :=
  fun c => .error (c.problemNext mistake)

/-- Looks at the next character. -/
def peek : Reader (Option Char) :=
  fun c => .ok (c.rest.head?, c)

/-- Uses up the next character. -/
def advance : Reader Unit :=
  fun c => .ok ((), c.advance)

/-- Uses up blank characters and looks at the next one. -/
def peekToken : Reader (Option Char) :=
  fun c => .ok (c.skipBlank.rest.head?, c.skipBlank)

/-- Reads these characters and no others. -/
def ident : List Char → Reader Unit
  | [] => pure ()
  | expected :: others => do
    match ← peek with
    | none => fail .endInValue
    | some c => if c = expected then do advance; ident others else failNext .expectedIdent

end Reader

end GoldenSuite.Json
