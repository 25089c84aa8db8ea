/-! # Doubles as exact values

A finite double is a whole number of at most 53 bits times a power of two.
Rounding a quotient of whole numbers to the nearest double is exact integer
arithmetic, and products and quotients of doubles round the same way.
-/

namespace SearchFeed

/-- A finite double, `mantissa * 2 ^ exponent` up to its sign. The exponent is the least one, at
least -1074, for which the mantissa has at most 53 bits. -/
structure Binary64 where
  negative : Bool
  mantissa : Nat
  exponent : Int
deriving DecidableEq, Repr, Inhabited

namespace Binary64

/-- The exponent of the smallest positive double. -/
def leastExponent : Int := -1074

/-- The exponent of the largest finite double. -/
def greatestExponent : Int := 971

/-- A quotient rounded to the nearest whole number, a half to the even one. -/
def roundedQuotient (numerator denominator : Nat) : Nat :=
  let quotient := numerator / denominator
  let twice := 2 * (numerator % denominator)
  if denominator < twice ∨ (twice = denominator ∧ quotient % 2 = 1) then quotient + 1
  else quotient

/-- The numerator and denominator of `numerator / denominator / 2 ^ exponent`. -/
def scaledBy (numerator denominator : Nat) (exponent : Int) : Nat × Nat :=
  if 0 ≤ exponent then (numerator, denominator <<< exponent.toNat)
  else (numerator <<< (-exponent).toNat, denominator)

/-- The exponent that the double nearest to a positive quotient has, before rounding. -/
def exponentOf (numerator denominator : Nat) : Int :=
  let guess := max ((numerator.log2 : Int) - denominator.log2 - 52) leastExponent
  let (scaled, unit) := scaledBy numerator denominator guess
  if scaled / unit < 1 <<< 52 then max (guess - 1) leastExponent else guess

/-- The double nearest to `numerator / denominator`, a tie going to the even mantissa; nothing if
the quotient is beyond the largest double. -/
def nearest? (negative : Bool) (numerator denominator : Nat) : Option Binary64 :=
  if numerator = 0 then some ⟨negative, 0, leastExponent⟩
  else
    let exponent := exponentOf numerator denominator
    let (scaled, unit) := scaledBy numerator denominator exponent
    let mantissa := roundedQuotient scaled unit
    let rounded : Binary64 :=
      if mantissa = 1 <<< 53 then ⟨negative, 1 <<< 52, exponent + 1⟩
      else ⟨negative, mantissa, exponent⟩
    if greatestExponent < rounded.exponent then none else some rounded

/-- The size of a double as a quotient of whole numbers. -/
def quotient (x : Binary64) : Nat × Nat :=
  if 0 ≤ x.exponent then (x.mantissa <<< x.exponent.toNat, 1)
  else (x.mantissa, 1 <<< (-x.exponent).toNat)

/-- The product of the sizes, with the sign of the first. -/
def times? (x y : Binary64) : Option Binary64 :=
  nearest? x.negative (x.quotient.1 * y.quotient.1) (x.quotient.2 * y.quotient.2)

/-- The quotient of the sizes, with the sign of the first; `y` is not zero. -/
def over? (x y : Binary64) : Option Binary64 :=
  nearest? x.negative (x.quotient.1 * y.quotient.2) (x.quotient.2 * y.quotient.1)

/-- The double nearest to a power of ten, which has to be at most the 308th. -/
def powerOfTen (n : Nat) : Binary64 := (nearest? false (Nat.pow 10 n) 1).getD default

/-- The greatest power of ten below the largest double. -/
def greatestPowerOfTen : Nat := 308

/-- Divides by the greatest power of ten again and again. -/
def downByGreatest : (times : Nat) → Binary64 → Option Binary64
  | 0, x => some x
  | times + 1, x =>
    if x.mantissa = 0 then some x
    else match x.over? (powerOfTen greatestPowerOfTen) with
      | some smaller => downByGreatest times smaller
      | none => none

/-- Divides by the power `count` of ten, at most 308 places at a time and rounding each time. -/
def downByTens (x : Binary64) (count : Nat) : Option Binary64 :=
  let times := (count - 1) / greatestPowerOfTen
  match downByGreatest times x with
  | some smaller => smaller.over? (powerOfTen (count - times * greatestPowerOfTen))
  | none => none

/-- The double read from the digits of a decimal and its exponent: the digits are rounded first
and scaled by a rounded power of ten afterwards. Nothing if the result is too large. -/
def ofDecimal? (negative : Bool) (digits : Nat) (exponent : Int) : Option Binary64 :=
  match nearest? negative digits 1 with
  | none => none
  | some x =>
    if 0 ≤ exponent then
      if exponent ≤ greatestPowerOfTen then x.times? (powerOfTen exponent.toNat)
      else if x.mantissa = 0 then some x
      else none
    else x.downByTens (-exponent).toNat

end Binary64

end SearchFeed
