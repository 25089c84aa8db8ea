import SearchFeed.Decimal.Binary64

/-! # Shortest decimals

The shortest decimal that reads back as a double: fewest digits first, and of
those the one nearest to the double.
-/

namespace SearchFeed.Binary64

/-- A positive decimal, `digits * 10 ^ exponent`. -/
structure Decimal where
  digits : Nat
  exponent : Int
deriving DecidableEq, Repr, Inhabited

/-- Numbers over one denominator: a double and the ends of the interval that rounds to it. -/
structure Interval where
  low : Nat
  value : Nat
  high : Nat
  unit : Nat
  /-- Whether the ends themselves round to the double, which they do if its mantissa is even. -/
  closed : Bool
deriving Repr

/-- The interval of numbers that round to a double. Below a power of two the doubles are half as
far apart as above it. -/
def interval (x : Binary64) : Interval :=
  let narrow := x.mantissa = 1 <<< 52 ∧ leastExponent < x.exponent
  let (scale, unit) :=
    if 2 ≤ x.exponent then (1 <<< (x.exponent - 2).toNat, 1) else (1, 1 <<< (2 - x.exponent).toNat)
  { low := (4 * x.mantissa - if narrow then 1 else 2) * scale
    value := 4 * x.mantissa * scale
    high := (4 * x.mantissa + 2) * scale
    unit := unit
    closed := x.mantissa % 2 = 0 }

namespace Interval

/-- Whether `digits * 10 ^ exponent` rounds to the double. -/
def holds (i : Interval) (digits : Nat) (exponent : Int) : Bool :=
  let (left, scale) :=
    if 0 ≤ exponent then (digits * Nat.pow 10 exponent.toNat * i.unit, 1)
    else (digits * i.unit, Nat.pow 10 (-exponent).toNat)
  if i.closed then i.low * scale ≤ left && left ≤ i.high * scale
  else i.low * scale < left && left < i.high * scale

/-- The double divided by `10 ^ exponent`, as a numerator and a denominator. -/
def onGrid (i : Interval) (exponent : Int) : Nat × Nat :=
  if 0 ≤ exponent then (i.value, i.unit * Nat.pow 10 exponent.toNat)
  else (i.value * Nat.pow 10 (-exponent).toNat, i.unit)

/-- The decimal on the grid of `10 ^ exponent` that rounds to the double, if there is one; of two
the nearer one, and of two as near the even one. -/
def onGrid? (i : Interval) (exponent : Int) : Option Decimal :=
  let (numerator, denominator) := i.onGrid exponent
  let below := numerator / denominator
  let nearer := roundedQuotient numerator denominator
  let further := if nearer = below then below + 1 else below
  if i.holds nearer exponent then some ⟨nearer, exponent⟩
  else if i.holds further exponent then some ⟨further, exponent⟩
  else none

end Interval

/-- The number of decimal digits of a positive number. -/
def digitCount (n : Nat) : Nat := (Nat.toDigits 10 n).length

/-- The exponent of ten of the leading digit of a positive quotient. -/
def leadingExponent (numerator denominator : Nat) : Int :=
  if denominator ≤ numerator then (digitCount (numerator / denominator) : Int) - 1
  else
    let guess : Int := (digitCount denominator : Int) - digitCount numerator
    if denominator ≤ numerator * Nat.pow 10 guess.toNat then -guess else -(guess + 1)

/-- The first of the grids from `exponent` down, at most `count` of them, that holds a decimal
rounding to the double. -/
def firstOnGrid (i : Interval) (exponent : Int) : (count : Nat) → Decimal
  | 0 => default
  | count + 1 =>
    match i.onGrid? exponent with
    | some decimal => decimal
    | none => firstOnGrid i (exponent - 1) count

/-- The number with its trailing zeros moved into the exponent, at most `count` of them. -/
def dropZeros (d : Decimal) : (count : Nat) → Decimal
  | 0 => d
  | count + 1 =>
    if d.digits % 10 = 0 ∧ d.digits ≠ 0 then dropZeros ⟨d.digits / 10, d.exponent + 1⟩ count
    else d

/-- The shortest decimal that reads back as a double other than zero. Seventeen digits always
suffice. -/
def shortest (x : Binary64) : Decimal :=
  let i := x.interval
  dropZeros (firstOnGrid i (leadingExponent i.value i.unit + 1) 19) 20

end SearchFeed.Binary64
