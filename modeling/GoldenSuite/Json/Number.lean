import GoldenSuite.Decimal.Shortest
import GoldenSuite.Json.Cursor

/-!
# Numbers in JSON

A number without a fraction and an exponent is an integer when it fits into 64 bits; every
other number is a binary fraction of double precision, which is computed from the digits that
fit into 64 bits and a power of ten.
-/

namespace GoldenSuite.Json

/-- A number that was read. -/
inductive Number where
  /-- An integer from zero on. -/
  | natural (value : Nat)
  /-- An integer below zero. -/
  | negative (value : Int)
  /-- Any other number. -/
  | real (value : Float)

/-! ### Doubles -/

/-- The binary fraction of a finite double other than zero, without its sign. -/
def binaryOf (value : Float) : Decimal.Binary :=
  let bits := value.toBits.toNat % Nat.pow 2 63
  let fraction : Nat := bits % Nat.pow 2 52
  let field : Nat := bits / Nat.pow 2 52
  if field = 0 then ⟨fraction, -1074, false⟩
  else ⟨Nat.pow 2 52 + fraction, (field : Int) - 1075, fraction = 0 ∧ 1 < field⟩

/-- Doubles are written positionally from five places after the point to sixteen before it. -/
def realStyle : Decimal.Style :=
  { leastPositional := -5, mostPositional := 15, wholeTail := ".0", plus := "+" }

/-- The text of a finite double: the fewest digits that read back. -/
def realText (value : Float) : String :=
  let bits := value.toBits.toNat
  let sign := if bits / Nat.pow 2 63 = 1 then "-" else ""
  if bits % Nat.pow 2 63 = 0 then sign ++ "0.0"
  else sign ++ (binaryOf value).shortest.write realStyle

/-- A number as it is named in a message. -/
def Number.found : Number → Found
  | .natural value => .integer value
  | .negative value => .integer value
  | .real value => .real (realText value)

/-! ### Digits -/

/-- The largest integer of 64 bits. -/
def largest64 : Nat := Nat.pow 2 64 - 1

def digitValue (c : Char) : Nat :=
  c.toNat - '0'.toNat

/-- Adds digits to a significand as long as it fits into 64 bits; also counts them. -/
def accumulate (significand count : Nat) : List Char → Nat × Nat
  | [] => (significand, count)
  | c :: rest =>
    let next := significand * 10 + digitValue c
    if largest64 < next then (significand, count) else accumulate next (count + 1) rest

/-- Scales a significand by a power of ten, unless the result is too large. A power of ten that
is itself too small is applied in parts, the number of which is bounded. -/
def scale (significand : Nat) (exponent : Int) : Option Float :=
  go 4 (Float.ofNat significand) exponent
where
  go : Nat → Float → Int → Option Float
    | 0, value, _ => some value
    | parts + 1, value, exponent =>
      if exponent.natAbs ≤ 308 then
        let power := Float.ofScientific 1 false exponent.natAbs
        if 0 ≤ exponent then
          let scaled := value * power
          if scaled.isInf then none else some scaled
        else some (value / power)
      else if value == 0.0 then some value
      else if 0 ≤ exponent then none
      else go parts (value / Float.ofScientific 1 false 308) (exponent + 308)

/-! ### Reading -/

namespace Reader

/-- Reads as many digits as there are. -/
def digits : Reader (List Char) :=
  fun c =>
    let ds := c.rest.takeWhile Char.isDigit
    .ok (ds, ⟨c.rest.dropWhile Char.isDigit, c.line, c.column + ds.length⟩)

/-- The double with these digits, this power of ten and this sign. -/
def assemble (negative : Bool) (significand : Nat) (exponent : Int) : Reader Number := do
  match scale significand exponent with
  | none => fail .numberOutOfRange
  | some value => pure (.real (if negative then -value else value))

/-- The largest exponent that is told apart from larger ones. -/
def largestExponent : Nat := Nat.pow 2 31 - 1

/-- Adds digits to an exponent; `none` when it gets too large, with the number of digits that
were looked at. -/
def exponentValue (value count : Nat) : List Char → Option Nat × Nat
  | [] => (some value, count)
  | c :: rest =>
    let next := value * 10 + digitValue c
    if largestExponent < next then (none, count + 1) else exponentValue next (count + 1) rest

/-- Reads an exponent after its letter, and with it the number. -/
def exponent (negative : Bool) (significand : Nat) (start : Int) : Reader Number := do
  let below ← do
    match ← peek with
    | some '+' => do advance; pure false
    | some '-' => do advance; pure true
    | _ => pure false
  match ← peek with
  | none => fail .endInValue
  | some c =>
    if !c.isDigit then failNext .invalidNumber
    else
      let before ← get
      let ds ← digits
      match exponentValue 0 0 ds with
      | (some value, _) =>
        assemble negative significand (if below then start - value else start + value)
      | (none, count) =>
        if significand ≠ 0 ∧ !below then
          throw (before.problemAfter count .numberOutOfRange)
        else pure (.real (if negative then -0.0 else 0.0))

/-- Reads what follows the digits before the point. -/
def fraction (negative : Bool) (significand : Nat) (dropped : Nat) : Reader Number := do
  match ← peek with
  | some '.' =>
    advance
    let ds ← digits
    if ds = [] then
      match ← peek with
      | none => failNext .endInValue
      | some _ => failNext .invalidNumber
    else
      let (significand, used) := accumulate significand 0 ds
      let start : Int := (dropped : Int) - used
      match ← peek with
      | some 'e' | some 'E' => do advance; exponent negative significand start
      | _ => assemble negative significand start
  | some 'e' | some 'E' => do advance; exponent negative significand dropped
  | _ =>
    if 0 < dropped then assemble negative significand dropped
    else if !negative then pure (.natural significand)
    else if significand = 0 ∨ Nat.pow 2 63 < significand then pure (.real (-(Float.ofNat significand)))
    else pure (.negative (-(significand : Int)))

/-- Reads a number after its sign. -/
def number (negative : Bool) : Reader Number := do
  match ← peek with
  | none => fail .endInValue
  | some c =>
    if c = '0' then
      advance
      match ← peek with
      | some next => if next.isDigit then failNext .invalidNumber else fraction negative 0 0
      | none => fraction negative 0 0
    else if c.isDigit then
      let ds ← digits
      let (significand, used) := accumulate 0 0 ds
      fraction negative significand (ds.length - used)
    else failNext .invalidNumber

end Reader

end GoldenSuite.Json
