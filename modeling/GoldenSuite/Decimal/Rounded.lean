/-!
# Rounded fractions

A fraction of natural numbers is rounded to the nearest whole number of units, and of two equally
near ones to the even one. Counted in powers of two this gives the nearest binary fraction of
double precision, and counted in powers of ten the decimal with so many places. A rounded
fraction is never more than half a unit away.
-/

namespace GoldenSuite.Decimal

/-- The whole number nearest to a quotient; a half goes to the even neighbour. -/
def roundDiv (numerator denominator : Nat) : Nat :=
  let quotient := numerator / denominator
  let twice := 2 * (numerator % denominator)
  if denominator < twice ∨ (twice = denominator ∧ quotient % 2 = 1) then quotient + 1 else quotient

/-- A fraction of natural numbers. -/
structure Fraction where
  numerator : Nat
  denominator : Nat
deriving DecidableEq, Repr

namespace Fraction

/-- A significand times a power of a base. -/
def scaled (base significand : Nat) : Int → Fraction
  | .ofNat n => ⟨significand * Nat.pow base n, 1⟩
  | .negSucc n => ⟨significand, Nat.pow base (n + 1)⟩

/-- A fraction measured in units of a power of a base. -/
def inUnits (x : Fraction) (base : Nat) : Int → Fraction
  | .ofNat n => ⟨x.numerator, x.denominator * Nat.pow base n⟩
  | .negSucc n => ⟨x.numerator * Nat.pow base (n + 1), x.denominator⟩

/-- The nearest whole number. -/
def round (x : Fraction) : Nat :=
  roundDiv x.numerator x.denominator

/-- Whether a fraction is at least one. -/
def isWhole (x : Fraction) : Bool :=
  x.denominator ≤ x.numerator

/-- The exponent of the largest power of two that is no larger than a positive fraction. -/
def log2 (x : Fraction) : Int :=
  let guess : Int := (x.numerator.log2 : Int) - x.denominator.log2
  if (x.inUnits 2 guess).isWhole then guess else guess - 1

/-- The exponent of the largest power of ten that is no larger than a positive fraction. It is
looked for near the number of digits. -/
def log10 (x : Fraction) : Int :=
  let digits (n : Nat) : Int := (Nat.toDigits 10 n).length
  let guess := digits x.numerator - digits x.denominator
  if (x.inUnits 10 guess).isWhole then guess else guess - 1

end Fraction

/-- A binary fraction of double precision without its sign, or one that is too large. -/
inductive Double where
  | finite (significand : Nat) (exponent : Int)
  | infinite
deriving DecidableEq, Repr

namespace Double

/-- The binary fraction nearest to a fraction. -/
def nearest (x : Fraction) : Double :=
  if x.numerator = 0 then .finite 0 0
  else
    let exponent := max (x.log2 - 52) (-1074)
    let significand := (x.inUnits 2 exponent).round
    if 1024 ≤ (significand.log2 : Int) + exponent then .infinite
    else .finite significand exponent

/-- Whether a positive fraction is so small that its nearest binary fraction has lost digits. -/
def isTooSmall (x : Fraction) : Bool :=
  match nearest x with
  | .infinite => false
  | .finite significand exponent =>
    let y := Fraction.scaled 2 significand exponent
    x.numerator ≠ 0 && significand.log2 < 52 && exponent = -1074 &&
      x.numerator * y.denominator ≠ y.numerator * x.denominator

example : nearest ⟨1, 10⟩ = .finite 7205759403792794 (-56) := by decide +kernel
example : nearest ⟨Nat.pow 2 1024, 1⟩ = .infinite := by decide +kernel

end Double

end GoldenSuite.Decimal
