/-!
# The shortest decimal that reads back

A finite binary number of double precision is an integer times a power of two.
The reals that round to it form an interval around it, and among the decimals
in that interval there is one with the fewest digits; of two such decimals the
one nearer to the number is taken.  All of this is exact arithmetic on natural
numbers.
-/

namespace WidgetTemplate

/-- The decimal `digits · 10 ^ exponent`. -/
structure Decimal where
  digits : Nat
  exponent : Int
  deriving DecidableEq, Repr, Inhabited

/-- The magnitude `significand · 2 ^ exponent` of a finite number. -/
structure Binary where
  significand : Nat
  exponent : Int
  deriving DecidableEq, Repr, Inhabited

namespace Binary

/-- The magnitude of a finite number of double precision. -/
def ofFloat (value : Float) : Binary :=
  let bits : Nat := value.toBits.toNat
  let fraction : Nat := bits % Nat.pow 2 52
  let scale : Nat := bits / Nat.pow 2 52 % Nat.pow 2 11
  if scale = 0 then
    ⟨fraction, -1074⟩
  else
    ⟨Nat.pow 2 52 + fraction, (scale : Int) - 1075⟩

/--
The numerator and denominator of `count · 2 ^ binary / 10 ^ decimal`.
-/
def ratio (count : Nat) (binary decimal : Int) : Nat × Nat :=
  (count * Nat.pow 2 binary.toNat * Nat.pow 10 (-decimal).toNat,
    Nat.pow 2 (-binary).toNat * Nat.pow 10 decimal.toNat)

/--
The distances from the number down and up to the ends of its interval, in
quarters of its last place.  Just above a power of two the number below is
nearer.
-/
def reach (number : Binary) : Nat × Nat :=
  if number.significand = Nat.pow 2 52 ∧ -1074 < number.exponent then
    (1, 2)
  else
    (2, 2)

/--
Whether `candidate · 10 ^ decimal` rounds to the number: it lies between the
ends of the interval, or on one of them if the significand is even.
-/
def holds (number : Binary) (candidate : Nat) (decimal : Int) : Bool :=
  let (down, up) := number.reach
  let (low, unit) :=
    ratio (4 * number.significand - down) (number.exponent - 2) decimal
  let (high, _) :=
    ratio (4 * number.significand + up) (number.exponent - 2) decimal
  let value := candidate * unit
  if number.significand % 2 = 0 then
    low ≤ value && value ≤ high
  else
    low < value && value < high

/--
The better of the two neighbours of a number among multiples of a power of ten.
-/
def neighbour? (number : Binary) (decimal : Int) : Option Nat :=
  let (value, unit) := ratio number.significand number.exponent decimal
  let below := value / unit
  let above := below + 1
  let nearerAbove :=
    unit < 2 * (value % unit) || (unit == 2 * (value % unit) && below % 2 == 1)
  match number.holds below decimal && below != 0, number.holds above decimal with
  | true, true => some (if nearerAbove then above else below)
  | true, false => some below
  | false, true => some above
  | false, false => none

/-- The first decimal that rounds to a number, from a power of ten downward. -/
def search (number : Binary) (decimal : Int) : Nat → Option Decimal
  | 0 => none
  | steps + 1 =>
      match number.neighbour? decimal with
      | some digits => some ⟨digits, decimal⟩
      | none => search number (decimal - 1) steps

/--
The shortest decimal of a magnitude.  No magnitude reaches `10 ^ 309`, and
multiples of `10 ^ -324` are dense enough for every one.
-/
def shortest (number : Binary) : Decimal :=
  if number.significand = 0 then
    ⟨0, 0⟩
  else
    (number.search 309 640).getD ⟨0, 0⟩

end Binary

end WidgetTemplate
