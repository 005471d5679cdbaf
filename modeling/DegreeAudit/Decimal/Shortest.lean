import DegreeAudit.Decimal.Binary64

/-!
# Shortest decimal digits

The decimal text of a double needs only as many digits as tell it from its neighbours. Every number
closer to the double than to any other reads back as it; these numbers form an interval, and the
coarsest decimal grid with a point in that interval gives the fewest digits. Of two points of that
grid the one nearer to the double is taken, an exact tie going to the even point.
-/

namespace DegreeAudit.Decimal

/-- A decimal magnitude: the digits of `digits` followed by `shift` zeros, or with that many decimal
places when `shift` is negative. -/
structure Digits where
  digits : Nat
  shift : Int
deriving DecidableEq, Repr

namespace Shortest

/-- The numbers that round to a magnitude, in units of a quarter of its last binary place over
`den`. -/
structure Interval where
  low : Nat
  value : Nat
  high : Nat
  den : Nat
  closed : Bool

/-- The interval of a double; its lower half is half as wide below a power of two. -/
def interval (x : Binary64) : Interval :=
  let quarter : Int := x.exponent - 2
  let up := Nat.pow 2 quarter.toNat
  let below :=
    if x.significand = Binary64.leastNormal ∧ Binary64.minExponent < x.exponent then 1 else 2
  { low := (4 * x.significand - below) * up
    value := 4 * x.significand * up
    high := (4 * x.significand + 2) * up
    den := Nat.pow 2 (-quarter).toNat
    closed := x.significand % 2 = 0 }

/-- The three bounds and the denominator after dividing by a power of ten. -/
def Interval.over (i : Interval) (shift : Int) : Interval :=
  let down := Nat.pow 10 shift.toNat
  let up := Nat.pow 10 (-shift).toNat
  { i with low := i.low * up, value := i.value * up, high := i.high * up, den := i.den * down }

def Interval.holds (i : Interval) (n : Nat) : Bool :=
  if i.closed then i.low ≤ n * i.den && n * i.den ≤ i.high
  else i.low < n * i.den && n * i.den < i.high

/-- The natural number in the interval that is nearest to its value, if there is one beside the
value. -/
def Interval.nearest? (i : Interval) : Option Nat :=
  let under := i.value / i.den
  let twice := 2 * (i.value % i.den)
  let nearer := if twice < i.den ∨ twice = i.den ∧ under % 2 = 0 then under else under + 1
  let other := if nearer = under then under + 1 else under
  if i.holds nearer then some nearer
  else if i.holds other then some other
  else none

/-- Tries grids from coarse to fine, each ten times finer than the one before. -/
def search (i : Interval) (shift : Int) : (tries : Nat) → Digits
  | 0 => ⟨0, 0⟩
  | tries + 1 =>
    match (i.over shift).nearest? with
    | some n => ⟨n, shift⟩
    | none => search i (shift - 1) tries

/-- A power of ten above the magnitude, from its binary length: three binary digits are less than
one decimal digit. -/
def topShift (x : Binary64) : Int :=
  ((x.significand.log2 : Int) + 1 + x.exponent) * 30103 / 100000 + 1

def stripZeros (n : Nat) (shift : Int) : Digits :=
  if h : 0 < n ∧ n % 10 = 0 then stripZeros (n / 10) (shift + 1) else ⟨n, shift⟩
termination_by n
decreasing_by omega

end Shortest

def shortest (x : Binary64) : Digits :=
  if x.significand = 0 then ⟨0, 0⟩
  else
    let found := Shortest.search (Shortest.interval x) (Shortest.topShift x) 20
    Shortest.stripZeros found.digits found.shift

end DegreeAudit.Decimal
