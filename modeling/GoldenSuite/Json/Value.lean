import GoldenSuite.Json.Number
import GoldenSuite.Json.Text

/-!
# Values of an expected kind

Whoever reads a JSON value knows what kind it has to be. A reader for one kind reads it, or
names what it met instead: a simple value is read to its end for that, a list or an object is
not read at all.
-/

namespace GoldenSuite.Json.Reader

/-- Names a value that is not of the expected kind. -/
def mismatch {α : Type} (expected : String) : Reader α := do
  let named (found : Found) : Reader α := fail (.wrongKind found expected)
  match ← peek with
  | some 'n' => do advance; ident ['u', 'l', 'l']; named .null
  | some 't' => do advance; ident ['r', 'u', 'e']; named (.boolean true)
  | some 'f' => do advance; ident ['a', 'l', 's', 'e']; named (.boolean false)
  | some '-' => do advance; named (← number true).found
  | some '"' => do advance; named (.text (← textBody))
  | some '[' => named .sequence
  | some '\x7b' => named .map
  | some c => if c.isDigit then do named (← number false).found else failNext .expectedValue
  | none => failNext .endInValue

/-- Reads a text; `expected` is how messages call it. -/
def text (expected : String) : Reader String := do
  match ← peekToken with
  | some '"' => do advance; textBody
  | _ => mismatch expected

def boolean : Reader Bool := do
  match ← peekToken with
  | some 't' => do advance; ident ['r', 'u', 'e']; pure true
  | some 'f' => do advance; ident ['a', 'l', 's', 'e']; pure false
  | _ => mismatch "a boolean"

/-- Reads an integer from zero on that fits into 64 bits. -/
def natural : Reader Nat := do
  let expected := "u64"
  let accept (value : Number) : Reader Nat :=
    match value with
    | .natural value => pure value
    | .negative value => fail (.wrongValue (.integer value) expected)
    | .real value => fail (.wrongKind (Number.real value).found expected)
  match ← peekToken with
  | some '-' => do advance; accept (← number true)
  | some c => if c.isDigit then do accept (← number false) else mismatch expected
  | none => mismatch expected

def null : Reader Unit := do
  match ← peekToken with
  | some 'n' => do advance; ident ['u', 'l', 'l']
  | _ => mismatch "unit"

/-! ### Lists -/

/-- Whether another element of a list follows. -/
def anotherElement (first : Bool) : Reader Bool := do
  match ← peekToken with
  | none => failNext .endInList
  | some ']' => pure false
  | some c =>
    if first then pure true
    else if c = ',' then do
      advance
      if (← peekToken) = some ']' then failNext .trailingComma else pure true
    else failNext .expectedListSeparator

def endOfList : Reader Unit := do
  match ← peekToken with
  | none => failNext .endInList
  | some ']' => advance
  | some ',' => do
    advance
    if (← peekToken) = some ']' then failNext .trailingComma else failNext .trailingCharacters
  | some _ => failNext .trailingCharacters

/-- Reads elements as long as there are any, at most as many as `most` says. -/
def elements {α : Type} (element : Reader α) : Nat → Bool → Reader (List α)
  | 0, _ => pure []
  | most + 1, first => do
    if ← anotherElement first then
      let head ← element
      let others ← elements element most false
      pure (head :: others)
    else pure []

/-- Reads a list. It has no more elements than the text has characters. -/
def list {α : Type} (element : Reader α) : Reader (List α) := do
  match ← peekToken with
  | some '[' =>
    advance
    let items ← elements element ((← get).rest.length + 1) true
    endOfList
    pure items
  | _ => mismatch "a sequence"

/-! ### Objects -/

/-- Whether another field of an object follows; the next character is then its opening quote. -/
def anotherField (first : Bool) : Reader Bool := do
  match ← peekToken with
  | none => failNext .endInObject
  | some '\x7d' => pure false
  | some c =>
    if first then
      if c = '"' then pure true else failNext .expectedKey
    else if c = ',' then do
      advance
      match ← peekToken with
      | some '"' => pure true
      | some '\x7d' => failNext .trailingComma
      | some _ => failNext .expectedKey
      | none => failNext .endInValue
    else failNext .expectedObjectSeparator

/-- Reads the name of a field, which starts with a quote. -/
def fieldName : Reader String := do
  advance
  textBody

/-- Reads the colon after the name of a field. -/
def colon : Reader Unit := do
  match ← peekToken with
  | some ':' => advance
  | some _ => failNext .expectedColon
  | none => failNext .endInObject

def endOfObject : Reader Unit := do
  match ← peekToken with
  | some '\x7d' => advance
  | some ',' => failNext .trailingComma
  | some _ => failNext .trailingCharacters
  | none => failNext .endInObject

/-- Stops because of the name of a field. The problem is placed after the name, the blank
characters behind it and the end of the object, as far as they are there. -/
def failAfterName {α : Type} (mistake : Mistake) : Reader α := do
  if (← peekToken) = some '\x7d' then advance
  fail mistake

def endOfText : Reader Unit := do
  match ← peekToken with
  | none => pure ()
  | some _ => failNext .trailingCharacters

end GoldenSuite.Json.Reader
