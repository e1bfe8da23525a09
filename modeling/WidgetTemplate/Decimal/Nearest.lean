import WidgetTemplate.Decimal.Shortest

/-!
# The number of double precision nearest to a decimal

A decimal is read as the nearest number of double precision, and as the one
with the even significand if two are equally near.  What is too large becomes
infinite.  All of this is exact arithmetic on natural numbers.
-/

namespace WidgetTemplate.Decimal

/-- A quotient rounded to the nearest integer, and to the even one of two. -/
def roundedQuotient (numerator denominator : Nat) : Nat :=
  let below := numerator / denominator
  let twice := 2 * (numerator % denominator)
  if denominator < twice ∨ (denominator = twice ∧ below % 2 = 1) then
    below + 1
  else
    below

/-- `numerator / denominator` counted in units of `2 ^ place`. -/
def countedIn (numerator denominator : Nat) (place : Int) : Nat × Nat :=
  (numerator * Nat.pow 2 (-place).toNat, denominator * Nat.pow 2 place.toNat)

/--
The last place of the number nearest to a quotient.  A significand has at most
53 bits, and no place is below `2 ^ -1074`.
-/
def lastPlace (numerator denominator : Nat) : Int :=
  let estimate := max ((numerator.log2 : Int) - denominator.log2 - 53) (-1074)
  let (count, unit) := countedIn numerator denominator estimate
  if count / unit < Nat.pow 2 53 then estimate else estimate + 1

/-- The nearest number to a positive quotient. -/
def nearestQuotient (numerator denominator : Nat) : Float :=
  let place := lastPlace numerator denominator
  let (count, unit) := countedIn numerator denominator place
  let significand := roundedQuotient count unit
  let bits := ((place + 1074).toNat <<< 52) + significand
  Float.ofBits (UInt64.ofNat (min bits (2047 <<< 52)))

/--
The nearest number to a decimal.  Decimals far out of range are not expanded:
they are infinite or zero.
-/
def toFloat (number : Decimal) : Float :=
  let magnitude := number.exponent + (toString number.digits).length
  if number.digits = 0 ∨ magnitude < -400 then
    0.0
  else if 400 < magnitude then
    1.0 / 0.0
  else
    nearestQuotient
      (number.digits * Nat.pow 10 number.exponent.toNat)
      (Nat.pow 10 (-number.exponent).toNat)

end WidgetTemplate.Decimal
