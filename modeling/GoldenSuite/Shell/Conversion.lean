import GoldenSuite.Decimal.Rounded
import GoldenSuite.Shell.Arithmetic

/-!
# Numbers in formatted output

The numbers that arguments show, and how a conversion writes them: integers in a base, and
binary fractions of double precision with a fixed number of places, with an exponent, or in the
shorter of the two ways. Decimals of fractions are exact before they are rounded.
-/

namespace GoldenSuite.Shell

/-! ### Reading -/

/-- What is wrong with an argument that should be a number. -/
inductive Doubt where
  | noNumber
  | incomplete
  | outOfRange
deriving DecidableEq, Repr

namespace Conversion

/-- A sign at the start of a text, and what comes after it. -/
def takeSign : List Char → Bool × List Char
  | '-' :: rest => (true, rest)
  | '+' :: rest => (false, rest)
  | rest => (false, rest)

/-- The code of the character behind a quote; without one it is zero. -/
def quotedCode? : List Char → Option Nat
  | '"' :: rest => some ((rest.head?.map Char.toNat).getD 0)
  | '\'' :: rest => some ((rest.head?.map Char.toNat).getD 0)
  | _ => none

/-- What is wrong with an argument, when `rest` is left of it after its number. -/
def doubtsOf (rest : List Char) (inRange : Bool) : List Doubt :=
  (if rest.isEmpty then [] else [.incomplete]) ++ if inRange then [] else [.outOfRange]

/-- The integer that an argument shows, between bounds. An argument without any number counts as
zero. -/
def integerBetween (low high : Int) (argument : String) : Int × List Doubt :=
  match quotedCode? argument.toList with
  | some code => (code, [])
  | none =>
    let (negative, digits) := takeSign (argument.toList.dropWhile Arithmetic.isSpace)
    if digits.head?.any Char.isDigit then
      let (size, rest) := Arithmetic.takeNumber digits
      let value : Int := if negative then -size else size
      (max low (min high value), doubtsOf rest (low ≤ value && value ≤ high))
    else (0, if argument.isEmpty then [] else [.noNumber])

/-- The integer with a sign that an argument shows. -/
def signedOf : String → Int × List Doubt :=
  integerBetween (-Int.pow 2 63) (Int.pow 2 63 - 1)

/-- The integer without a sign that an argument shows; a negative one is taken modulo `2 ^ 64`. -/
def unsignedOf (argument : String) : Nat × List Doubt :=
  let (value, doubts) := integerBetween (1 - Int.pow 2 64) (Int.pow 2 64 - 1) argument
  let value := if .outOfRange ∈ doubts then Int.pow 2 64 - 1 else value
  ((value % Int.pow 2 64).toNat, doubts)

/-- A number of double precision. -/
inductive Real where
  | number (negative : Bool) (size : Decimal.Double)
  | nan (negative : Bool)
deriving DecidableEq, Repr

/-- Digits of a base around a point: their value, how many are behind the point, whether there
are any, and what comes after them. -/
def takeFraction (base : Nat) (text : List Char) : Nat × Nat × Bool × List Char :=
  let isDigit (c : Char) : Bool := (Arithmetic.digitOf? base c).isSome
  let whole := text.takeWhile isDigit
  let after := text.dropWhile isDigit
  let (places, after) := match after with
    | '.' :: rest =>
      if whole.isEmpty && !rest.head?.any isDigit then ([], after)
      else (rest.takeWhile isDigit, rest.dropWhile isDigit)
    | _ => ([], after)
  let value := (Arithmetic.takeDigits base 0 (whole ++ places)).1
  (value, places.length, !(whole.isEmpty && places.isEmpty), after)

/-- An exponent behind one of two letters, and what comes after it. -/
def takeExponent (lower upper : Char) (text : List Char) : Int × List Char :=
  match text with
  | letter :: rest =>
    let (negative, digits) := takeSign rest
    if (letter = lower || letter = upper) && digits.head?.any Char.isDigit then
      let (size, after) := Arithmetic.takeDigits 10 0 digits
      (if negative then -size else size, after)
    else (0, text)
  | [] => (0, [])

/-- A bound for exponents beyond which every number is too large or too small. -/
def largestExponent : Int := 5000

/-- The double nearest to a significand times a power of a base, and whether it is in range. -/
def doubleOf (base significand : Nat) (exponent : Int) : Decimal.Double × Bool :=
  let top := exponent + ((Nat.toDigits base significand).length : Nat)
  if significand = 0 then (.finite 0 0, true)
  else if largestExponent < top then (.infinite, false)
  else if top < -largestExponent then (.finite 0 0, false)
  else
    let fraction := Decimal.Fraction.scaled base significand exponent
    let size := Decimal.Double.nearest fraction
    (size, size ≠ .infinite && !Decimal.Double.isTooSmall fraction)

/-- What is left of a text after a word that it starts with, in small or capital letters. -/
def afterWord? (word : String) (text : List Char) : Option (List Char) :=
  if (text.take word.length).map Char.toLower = word.toList then some (text.drop word.length)
  else none

/-- The number at the start of a text without a sign, what comes after it, and whether it is in
range. -/
def takeReal? (negative : Bool) (text : List Char) : Option (Real × List Char × Bool) :=
  let hexadecimal := match text with
    | '0' :: x :: rest =>
      let (significand, places, found, after) := takeFraction 16 rest
      if (x = 'x' || x = 'X') && found then some (significand, places, after) else none
    | _ => none
  match afterWord? "infinity" text, afterWord? "inf" text, afterWord? "nan" text with
  | some rest, _, _ => some (.number negative .infinite, rest, true)
  | none, some rest, _ => some (.number negative .infinite, rest, true)
  | none, none, some rest => some (.nan negative, rest, true)
  | none, none, none =>
    match hexadecimal with
    | some (significand, places, after) =>
      let (exponent, after) := takeExponent 'p' 'P' after
      let (size, inRange) := doubleOf 2 significand (exponent - 4 * places)
      some (.number negative size, after, inRange)
    | none =>
      let (significand, places, found, after) := takeFraction 10 text
      if found then
        let (exponent, after) := takeExponent 'e' 'E' after
        let (size, inRange) := doubleOf 10 significand (exponent - places)
        some (.number negative size, after, inRange)
      else none

/-- The number of double precision that an argument shows. -/
def realOf (argument : String) : Real × List Doubt :=
  match quotedCode? argument.toList with
  | some code => (.number false (.finite code 0), [])
  | none =>
    let (negative, digits) := takeSign (argument.toList.dropWhile Arithmetic.isSpace)
    match takeReal? negative digits with
    | some (value, rest, inRange) => (value, doubtsOf rest inRange)
    | none =>
      (.number false (.finite 0 0), if argument.isEmpty then [] else [.noNumber])

/-! ### Layout -/

/-- How a conversion lays out what it writes. -/
structure Layout where
  /-- Blanks are added after the text, not before it. -/
  left : Bool := false
  plus : Bool := false
  blank : Bool := false
  alternate : Bool := false
  zeros : Bool := false
  width : Nat := 0
  precision : Option Nat := none
deriving DecidableEq, Repr

namespace Layout

/-- Fills a text up to the width: with blanks, or with zeros behind what leads the text. -/
def fill (layout : Layout) (zeros : Bool) (lead text : List Char) : List Char :=
  let missing := layout.width - (lead.length + text.length)
  if layout.left then lead ++ text ++ List.replicate missing ' '
  else if zeros then lead ++ List.replicate missing '0' ++ text
  else List.replicate missing ' ' ++ lead ++ text

/-- The sign of a number. -/
def sign (layout : Layout) (negative : Bool) : List Char :=
  if negative then ['-'] else if layout.plus then ['+'] else if layout.blank then [' '] else []

/-- Digits with zeros before them, as many as the precision asks for. -/
def digits (layout : Layout) (base value : Nat) : List Char :=
  let shown := if value = 0 then [] else Nat.toDigits base value
  List.replicate (layout.precision.getD 1 - shown.length) '0' ++ shown

/-- An integer with a sign. -/
def signed (layout : Layout) (value : Int) : List Char :=
  layout.fill (layout.zeros && layout.precision.isNone) (layout.sign (value < 0))
    (layout.digits 10 value.natAbs)

/-- An integer without a sign, in the base of a letter. -/
def unsigned (layout : Layout) (letter : Char) (value : Nat) : List Char :=
  let zeros := layout.zeros && layout.precision.isNone
  let marked := layout.alternate && value ≠ 0
  match letter with
  | 'o' =>
    let digits := layout.digits 8 value
    let short := layout.alternate && digits.head? != some '0'
    layout.fill zeros [] (if short then '0' :: digits else digits)
  | 'x' => layout.fill zeros (if marked then ['0', 'x'] else []) (layout.digits 16 value)
  | 'X' =>
    layout.fill zeros (if marked then ['0', 'X'] else [])
      ((layout.digits 16 value).map Char.toUpper)
  | _ => layout.fill zeros [] (layout.digits 10 value)

/-! ### Fractions -/

/-- Digits with a point before the last ones; the point itself can be wanted even when nothing
follows it. -/
def pointed (point : Bool) (places : Nat) (digits : List Char) : List Char :=
  let padded := List.replicate (places + 1 - digits.length) '0' ++ digits
  let whole := padded.take (padded.length - places)
  let rest := padded.drop (padded.length - places)
  if places = 0 && !point then whole else whole ++ '.' :: rest

/-- A fraction with so many places. -/
def fixed (point : Bool) (places : Nat) (x : Decimal.Fraction) : List Char :=
  pointed point places (Nat.toDigits 10 (x.inUnits 10 (-places)).round)

/-- The digits of a fraction, one of which is before the point, and the exponent. -/
def scientific (places : Nat) (x : Decimal.Fraction) : List Char × Int :=
  if x.numerator = 0 then (List.replicate (places + 1) '0', 0)
  else
    let exponent := x.log10
    let digits := Nat.toDigits 10 (x.inUnits 10 (exponent - places)).round
    if places + 1 < digits.length then (digits.dropLast, exponent + 1) else (digits, exponent)

/-- An exponent with its sign and at least two digits. -/
def exponentText (exponent : Int) : List Char :=
  let digits := Nat.toDigits 10 exponent.natAbs
  (if exponent < 0 then '-' else '+') :: (List.replicate (2 - digits.length) '0' ++ digits)

def exponential (point : Bool) (places : Nat) (x : Decimal.Fraction) : List Char :=
  let (digits, exponent) := scientific places x
  pointed point places digits ++ 'e' :: exponentText exponent

/-- Takes the zeros behind the point away, and the point when nothing else is behind it. -/
def withoutZeros (mantissa : List Char) : List Char :=
  if '.' ∈ mantissa then
    let shorter := mantissa.reverse.dropWhile (· = '0')
    (if shorter.head? == some '.' then shorter.tail else shorter).reverse
  else mantissa

/-- A fraction in the shorter way, with so many digits. -/
def general (point : Bool) (precision : Nat) (x : Decimal.Fraction) : List Char :=
  let count := max precision 1
  let exponent := (scientific (count - 1) x).2
  let text :=
    if -4 ≤ exponent && exponent < count then fixed point (count - 1 - exponent).toNat x
    else exponential point (count - 1) x
  let mantissa := text.takeWhile (· ≠ 'e')
  if point then text else withoutZeros mantissa ++ text.drop mantissa.length

/-- A double in hexadecimal, with the digit one before the point. -/
def hexadecimal (point : Bool) (precision : Option Nat) (significand : Nat) (exponent : Int) :
    List Char :=
  let isZero := significand = 0
  let shift := 52 - significand.log2
  let isSmall := exponent - shift < -1074
  let scaled := if isZero || isSmall then significand else significand * Nat.pow 2 shift
  let power : Int := if isZero then 0 else if isSmall then -1022 else exponent - shift + 52
  let places := match precision with
    | some places => places
    | none => 13
  let digits := Nat.toDigits 16
    (if places < 13 then Decimal.roundDiv scaled (Nat.pow 16 (13 - places))
     else scaled * Nat.pow 16 (places - 13))
  let text := pointed point places digits
  let digits := Nat.toDigits 10 power.natAbs
  (if precision.isNone && !point then withoutZeros text else text) ++
    'p' :: (if power < 0 then '-' else '+') :: digits

/-- A number of double precision, as a letter asks for. -/
def real (layout : Layout) (letter : Char) (value : Real) : List Char :=
  let raise (text : List Char) : List Char :=
    if letter.isUpper then text.map Char.toUpper else text
  match value with
  | .nan negative => layout.fill false (layout.sign negative) (raise ['n', 'a', 'n'])
  | .number negative .infinite =>
    layout.fill false (layout.sign negative) (raise ['i', 'n', 'f'])
  | .number negative (.finite significand exponent) =>
    let x := Decimal.Fraction.scaled 2 significand exponent
    let precision := layout.precision.getD 6
    let lead := layout.sign negative
    match letter.toLower with
    | 'f' => layout.fill layout.zeros lead (fixed layout.alternate precision x)
    | 'e' => layout.fill layout.zeros lead (raise (exponential layout.alternate precision x))
    | 'g' => layout.fill layout.zeros lead (raise (general layout.alternate precision x))
    | _ =>
      let text := hexadecimal layout.alternate layout.precision significand exponent
      layout.fill layout.zeros (lead ++ raise ['0', 'x']) (raise text)

example : ({ precision := some 2 } : Layout).real 'f' (realOf "2.675").1 = ['2', '.', '6', '7'] := by
  decide +kernel

end Layout

end Conversion

end GoldenSuite.Shell
