/-!
# The shortest decimal that reads back

A binary fraction `m · 2 ^ q` stands for all the numbers that round to it. Among the decimals
`d · 10 ^ k` in that interval this module takes one on the coarsest grid (the largest `k`), and
on that grid the one nearest to the fraction. All arithmetic is exact, on natural numbers.
-/

namespace GoldenSuite.Decimal

/-- A positive binary fraction `significand · 2 ^ exponent`. `atBoundary` says that the next
smaller fraction is only half a step away. -/
structure Binary where
  significand : Nat
  exponent : Int
  atBoundary : Bool
deriving DecidableEq, Repr

/-- A decimal numeral `digits · 10 ^ exponent`. -/
structure Numeral where
  digits : Nat
  exponent : Int
deriving DecidableEq, Repr

/-- An interval of fractions over one denominator with a point in it; `closed` says whether the
two ends belong to it. -/
structure Interval where
  low : Nat
  point : Nat
  high : Nat
  denominator : Nat
  closed : Bool
deriving DecidableEq, Repr

/-- The numbers that round to a binary fraction: half a step to either side, or a quarter step
below when the next smaller fraction is nearer. The ends belong to it when the significand is
even. -/
def Binary.interval (b : Binary) : Interval :=
  let below := if b.atBoundary then 1 else 2
  let scale : Nat := match b.exponent - 2 with
    | .ofNat n => Nat.pow 2 n
    | .negSucc _ => 1
  let denominator : Nat := match b.exponent - 2 with
    | .ofNat _ => 1
    | .negSucc n => Nat.pow 2 (n + 1)
  { low := (4 * b.significand - below) * scale
    point := 4 * b.significand * scale
    high := (4 * b.significand + 2) * scale
    denominator := denominator
    closed := b.significand % 2 = 0 }

/-- Measures an interval in units of `10 ^ k`. -/
def Interval.inUnits (i : Interval) : Int → Interval
  | .ofNat n => { i with denominator := i.denominator * Nat.pow 10 n }
  | .negSucc n =>
    let scale := Nat.pow 10 (n + 1)
    { i with low := i.low * scale, point := i.point * scale, high := i.high * scale }

/-- Whether a whole number of units lies in the interval. -/
def Interval.holds (i : Interval) (units : Nat) : Bool :=
  let at_ := units * i.denominator
  if i.closed then i.low ≤ at_ && at_ ≤ i.high else i.low < at_ && at_ < i.high

/-- The whole number of units in the interval that is nearest to its point, when one of the two
neighbours of the point lies in it; of two equally near ones the even one. -/
def Interval.nearest? (i : Interval) : Option Nat :=
  let floor := i.point / i.denominator
  let down := 0 < floor && i.holds floor
  let up := i.holds (floor + 1)
  let toFloor := i.point - floor * i.denominator
  let toCeiling := (floor + 1) * i.denominator - i.point
  match down, up with
  | false, false => none
  | true, false => some floor
  | false, true => some (floor + 1)
  | true, true =>
    if toFloor < toCeiling then some floor
    else if toCeiling < toFloor then some (floor + 1)
    else some (if floor % 2 = 0 then floor else floor + 1)

/-- The decimal exponents that are tried, from the coarsest grid to the finest. -/
def gridExponents : List Int :=
  (List.range 660).map fun n : Nat => (310 : Int) - Int.ofNat n

/-- The shortest decimal that rounds to a binary fraction. -/
def Binary.shortest (b : Binary) : Numeral :=
  let found := gridExponents.findSome? fun k =>
    (b.interval.inUnits k).nearest?.map fun units => ({ digits := units, exponent := k } : Numeral)
  found.getD { digits := 0, exponent := 0 }

/-! ### Writing a decimal -/

/-- How a decimal is written out. -/
structure Style where
  /-- The least scientific exponent that is still written positionally. -/
  leastPositional : Int
  /-- The largest scientific exponent that is still written positionally. -/
  mostPositional : Int
  /-- What follows a whole number that is written positionally. -/
  wholeTail : String
  /-- The sign of an exponent that is not negative. -/
  plus : String

/-- Writes the digits of a decimal: positionally within the bounds of the style, otherwise with
one digit before the point and an exponent. -/
def Numeral.write (style : Style) (d : Numeral) : String :=
  let digits := (Nat.toDigits 10 d.digits)
  let size := digits.length
  let scientific : Int := d.exponent + size - 1
  let zeros (n : Int) : List Char := List.replicate n.toNat '0'
  if style.leastPositional ≤ scientific ∧ scientific ≤ style.mostPositional then
    if scientific < 0 then
      String.ofList ('0' :: '.' :: zeros (-scientific - 1) ++ digits)
    else if (size : Int) ≤ scientific + 1 then
      String.ofList (digits ++ zeros d.exponent) ++ style.wholeTail
    else
      let whole := (scientific + 1).toNat
      String.ofList (digits.take whole ++ '.' :: digits.drop whole)
  else
    let mantissa := match digits with
      | first :: second :: rest => first :: '.' :: second :: rest
      | few => few
    let exponent := if scientific < 0 then toString scientific else style.plus ++ toString scientific
    String.ofList mantissa ++ "e" ++ exponent

end GoldenSuite.Decimal
