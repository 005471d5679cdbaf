/-!
# Finite doubles

A finite double is a sign and a multiple of a power of two: fifty-three binary digits, exponents
from -1074 to 971. All arithmetic here is exact arithmetic on natural numbers followed by one
rounding to the nearest double, a tie going to the even significand, so a product or quotient is
what the IEEE operation gives. A result beyond the largest double is refused rather than made
infinite.
-/

namespace DegreeAudit.Decimal

/-- The value `significand * 2 ^ exponent` with a sign; zero and the smallest doubles have the least
exponent. -/
structure Binary64 where
  negative : Bool
  significand : Nat
  exponent : Int
deriving DecidableEq, Repr, Inhabited

namespace Binary64

def minExponent : Int := -1074

def maxExponent : Int := 971

/-- The least significand of fifty-three binary digits. -/
def leastNormal : Nat := 0x10000000000000

/-- Zero without a sign. -/
def zero : Binary64 := ⟨false, 0, minExponent⟩

/-- The quotient rounded to the nearest natural number, a half to the even neighbour. -/
def roundHalfEven (num den : Nat) : Nat :=
  let whole := num / den
  let twice := 2 * (num % den)
  if twice < den then whole
  else if twice = den then whole + whole % 2
  else whole + 1

/-- The numerator and denominator of `num / den / 2 ^ exponent`. -/
def scaled (num den : Nat) (exponent : Int) : Nat × Nat :=
  if 0 ≤ exponent then (num, den * Nat.pow 2 exponent.toNat)
  else (num * Nat.pow 2 (-exponent).toNat, den)

/-- The exponent at which the quotient has fifty-three binary digits, or the least one if it has
fewer there. -/
def exponentOf (num den : Nat) : Int :=
  let guess : Int := (num.log2 : Int) - den.log2 - 52
  let (n, d) := scaled num den guess
  max minExponent (if n < leastNormal * d then guess - 1 else guess)

/-- The double nearest to a quotient of natural numbers, unless it is beyond the largest. -/
def ofQuotient? (num den : Nat) : Option Binary64 :=
  if num = 0 then some zero
  else
    let exponent := exponentOf num den
    let (n, d) := scaled num den exponent
    let rounded := roundHalfEven n d
    let (significand, exponent) :=
      if rounded = 2 * leastNormal then (leastNormal, exponent + 1) else (rounded, exponent)
    if exponent ≤ maxExponent then some ⟨false, significand, exponent⟩ else none

def toQuotient (x : Binary64) : Nat × Nat :=
  if 0 ≤ x.exponent then (x.significand * Nat.pow 2 x.exponent.toNat, 1)
  else (x.significand, Nat.pow 2 (-x.exponent).toNat)

/-- The double nearest to the product of two magnitudes. -/
def mul? (x y : Binary64) : Option Binary64 :=
  let (a, b) := x.toQuotient
  let (c, d) := y.toQuotient
  ofQuotient? (a * c) (b * d)

/-- The double nearest to the quotient of two magnitudes. -/
def div? (x y : Binary64) : Option Binary64 :=
  let (a, b) := x.toQuotient
  let (c, d) := y.toQuotient
  ofQuotient? (a * d) (b * c)

def withSign (x : Binary64) (negative : Bool) : Binary64 := { x with negative }

/-- The double nearest to a power of ten. -/
def powerOfTen? (n : Nat) : Option Binary64 := ofQuotient? (Nat.pow 10 n) 1

/-- The largest power of ten that is a finite double. -/
def topPower : Nat := 308

/-- A magnitude times a power of ten in one multiplication or division; powers out of reach are
divided off `topPower` at a time, and no magnitude but zero is raised by one. -/
def shiftTen? (x : Binary64) (shift : Int) : Option Binary64 :=
  if shift.natAbs ≤ topPower then
    (powerOfTen? shift.natAbs).bind fun power => if 0 ≤ shift then x.mul? power else x.div? power
  else if x.significand = 0 then some x
  else if 0 ≤ shift then none
  else ((powerOfTen? topPower).bind x.div?).bind fun y => y.shiftTen? (shift + topPower)
termination_by shift.natAbs
decreasing_by simp only [topPower] at *; omega

/-- The double read from a decimal numeral: the significand is rounded first and then shifted, so
the result can differ from the nearest double in the last place. -/
def ofDecimal? (negative : Bool) (significand : Nat) (shift : Int) : Option Binary64 :=
  ((ofQuotient? significand 1).bind (·.shiftTen? shift)).map (·.withSign negative)

end Binary64

end DegreeAudit.Decimal
