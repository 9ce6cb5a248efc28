import GoldenSuite.Journal
import GoldenSuite.Journal.Expression
import GoldenSuite.Text.Blank

/-!
# Directives

A directive asks for the notes from some level on. It may ask for those of the parts whose name
starts with a text, for those made while something is being done, and for those that go with
certain fields: `part[activity{field=value}]=level`. Every piece may be left out.
-/

namespace GoldenSuite.Journal

/-! ### Levels by name -/

/-- The thresholds that have a name. -/
def namedThresholds : List (String × Threshold) :=
  [("off", .silent), ("error", .errors), ("warn", .ofLevel .warn), ("info", .ofLevel .info),
   ("debug", .ofLevel .debug), ("trace", .everything)]

/-- The thresholds that have a number, from zero on. -/
def numberedThresholds : List Threshold :=
  [.silent, .errors, .ofLevel .warn, .ofLevel .info, .ofLevel .debug, .everything]

/-- The number that digits write, with a plus sign before them if there is one. -/
def number? (text : List Char) : Option Nat :=
  let digits := match text with
    | '+' :: rest => rest
    | rest => rest
  if digits.isEmpty || !digits.all Char.isDigit then none
  else some (digits.foldl (fun n c => 10 * n + (c.toNat - '0'.toNat)) 0)

/-- The threshold that a text names; capital letters make no difference. -/
def threshold? (text : String) : Option Threshold :=
  match number? text.toList with
  | some n => numberedThresholds[n]?
  | none => namedThresholds.lookup text.toLower

/-! ### Fields -/

/-- What the value of a field has to be. -/
inductive Wanted where
  /-- A number or a truth value, which a text never is. -/
  | plainValue
  | text (pattern : Expression)
deriving Repr

/-- A field that is asked for. -/
structure FieldTest where
  name : String
  /-- The value as it was written. -/
  written : Option String
  wanted : Option Wanted
deriving Repr

/-- Whether a text writes a number, with a fraction and an exponent if there are any. -/
def isNumber (text : List Char) : Bool :=
  let unsigned := match text with
    | '+' :: rest => rest
    | '-' :: rest => rest
    | rest => rest
  let whole := unsigned.takeWhile Char.isDigit
  let (fraction, rest) := match unsigned.dropWhile Char.isDigit with
    | '.' :: rest => (rest.takeWhile Char.isDigit, rest.dropWhile Char.isDigit)
    | rest => ([], rest)
  let exponent := match rest with
    | [] => true
    | c :: rest =>
      let digits := match rest with
        | '+' :: digits => digits
        | '-' :: digits => digits
        | digits => digits
      c.toLower == 'e' && !digits.isEmpty && digits.all Char.isDigit
  let word := (String.ofList unsigned).toLower
  (!(whole ++ fraction).isEmpty && exponent) || word == "inf" || word == "infinity" ||
    word == "nan"

/-- What a written value asks for. -/
def Wanted.ofText? (text : String) : Option Wanted :=
  if text == "true" || text == "false" || isNumber text.toList then some .plainValue
  else (Expression.ofText? text).map Wanted.text

/-- Reads a field: its name and, after an equals sign, its value. -/
def FieldTest.ofText? (text : String) : Option FieldTest :=
  match text.splitOn "=" with
  | name :: value :: _ => (Wanted.ofText? value).map fun wanted => ⟨name, some value, some wanted⟩
  | _ => some ⟨text, none, none⟩

/-! ### Directives -/

/-- One request for notes. -/
structure Directive where
  /-- What the names of the parts start with. -/
  part : Option String := none
  /-- What is being done meanwhile. -/
  activity : Option String := none
  fields : List FieldTest := []
  threshold : Threshold := .everything
deriving Repr

/-- How far a directive has been read; the numbers tell where the piece begins that is being
read. -/
inductive Place where
  | start
  | levelOrPart (start : Nat)
  | activity (start : Nat)
  | field (start : Nat)
  | fieldsRead
  | activityRead
  | level (start : Nat)
deriving DecidableEq, Repr

/-- Signs and pictures, which no name starts with. -/
def signRanges : List (Nat × Nat) :=
  [(0x80, 0xA9), (0xAB, 0xB1), (0xB4, 0xB4), (0xB6, 0xB8), (0xBB, 0xBB), (0xBF, 0xBF),
   (0xD7, 0xD7), (0xF7, 0xF7), (0x2000, 0x206F), (0x20A0, 0x20FF), (0x2190, 0x245F),
   (0x2500, 0x2775), (0x2794, 0x2BFF), (0x2E00, 0x2E2E), (0x3000, 0x3004), (0x3008, 0x3020),
   (0xE000, 0xF8FF), (0xFF01, 0xFF0F), (0x1F300, 0x1FAFF)]

/-- Whether a name can start with a character. -/
def opensName (c : Char) : Bool :=
  c = '-' || c = ':' || c = '_' || c.isAlphanum ||
    (0x80 ≤ c.toNat && !signRanges.any fun range => range.1 ≤ c.toNat && c.toNat ≤ range.2)

namespace Directive

/-- The piece of a text between two places. -/
def piece (text : List Char) (start stop : Nat) : String :=
  String.ofList ((text.drop start).take (stop - start))

/-- Adds the field that ends at a place. -/
def addField (d : Directive) (text : List Char) (start stop : Nat) : Option Directive :=
  if start = stop then none
  else (FieldTest.ofText? (piece text start stop)).map fun field =>
    { d with fields := d.fields ++ [field] }

/-- Reads the character at a place. -/
def advance (text : List Char) (d : Directive) (here : Nat) (c : Char) :
    Place → Option (Directive × Place)
  | .start =>
    if c = '[' then some (d, .activity (here + 1))
    else if opensName c then some (d, .levelOrPart here)
    else none
  | .levelOrPart start =>
    if c = '=' then some ({ d with part := some (piece text start here) }, .level (here + 1))
    else if c = '[' then
      some ({ d with part := some (piece text start here) }, .activity (here + 1))
    else some (d, .levelOrPart start)
  | .activity start =>
    let name := piece text start here
    if c = ']' then some ({ d with activity := some name }, .activityRead)
    else if c = '\x7b' then
      some ({ d with activity := if name = "" then none else some name }, .field (here + 1))
    else some (d, .activity start)
  | .field start =>
    if c = '\x7d' then (d.addField text start here).map fun d => (d, .fieldsRead)
    else some (d, .field start)
  | .fieldsRead => if c = ']' then some (d, .activityRead) else none
  | .activityRead => if c = '=' then some (d, .level (here + 1)) else none
  | .level start => some (d, .level start)

/-- Reads characters, the first of which is at a place. -/
def readFrom (text : List Char) (d : Directive) (place : Place) (here : Nat) :
    List Char → Option (Directive × Place)
  | [] => some (d, place)
  | c :: rest =>
    match d.advance text here c place with
    | some (d, place) => readFrom text d place (here + 1) rest
    | none => none

/-- What a directive is when its text ends. -/
def close (text : List Char) (d : Directive) : Place → Option Directive
  | .levelOrPart start =>
    let rest := String.ofList (text.drop start)
    match threshold? rest with
    | some threshold => some { d with threshold }
    | none => some { d with part := some rest }
  | .level start =>
    let rest := String.ofList (text.drop start)
    if rest = "" then some d
    else (threshold? rest).map fun threshold => { d with threshold }
  | .activityRead => some d
  | _ => none

/-- Reads a directive. Blanks at its ends are passed over while it is read; but its pieces are
looked up in the text as it stands, so that blanks at the front shift them. -/
def ofText? (text : String) : Option Directive :=
  let whole := text.toList
  let inner := Text.trimEnd (whole.dropWhile Text.isBlank)
  match readFrom whole {} .start 0 inner with
  | some (d, place) => d.close whole place
  | none => none

/-- Whether what is being done matters to a directive, and not the note alone. -/
def isDynamic (d : Directive) : Bool :=
  d.activity.isSome || !d.fields.isEmpty

/-- Whether the note alone decides: no activity is named and no value. -/
def isStatic (d : Directive) : Bool :=
  d.activity.isNone && d.fields.all (·.written.isNone)

/-- Two directives with the same key say the same about different levels. -/
def key (d : Directive) : Option String × Option String × List (String × Option String) :=
  (d.part, d.activity, d.fields.map fun field => (field.name, field.written))

/-- Whether a directive is about the parts with a name. -/
def concernsPart (d : Directive) (name : String) : Bool :=
  match d.part with
  | some start => name.startsWith start
  | none => true

end Directive

end GoldenSuite.Journal
