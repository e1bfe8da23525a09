import WidgetTemplate.Decimal.Shortest

/-!
# The text of a number of double precision

Two notations are in use, and both show the shortest decimal that reads back.
The positional notation never has an exponent.  The mixed notation turns to an
exponent for very large and very small numbers.
-/

namespace WidgetTemplate.Decimal

/-- The digits of a natural number. -/
def digitsOf (value : Nat) : List Char :=
  (toString value).toList

/-- Zeros in a row. -/
def zeros (count : Nat) : List Char :=
  List.replicate count '0'

/-- A decimal without exponent: a point stands only in front of a fraction. -/
def positional (number : Decimal) : List Char :=
  let digits := digitsOf number.digits
  if 0 ≤ number.exponent then
    if number.digits = 0 then digits else digits ++ zeros number.exponent.toNat
  else
    let places := (-number.exponent).toNat
    if places < digits.length then
      digits.take (digits.length - places) ++
        '.' :: digits.drop (digits.length - places)
    else
      '0' :: '.' :: zeros (places - digits.length) ++ digits

/-- A text with a point: `.0` is added if there is none. -/
def withPoint (text : List Char) : List Char :=
  if text.contains '.' then text else text ++ ['.', '0']

/--
A decimal with a point, or with an exponent if its first digit stands more
than sixteen places before the point or more than five behind it.
-/
def mixed (number : Decimal) : List Char :=
  let digits := digitsOf number.digits
  let magnitude := number.exponent + digits.length
  if number.digits = 0 ∨ (-5 < magnitude ∧ magnitude ≤ 16) then
    withPoint (positional number)
  else
    let power := (toString (magnitude - 1)).toList
    match digits with
    | [digit] => digit :: 'e' :: power
    | first :: others => first :: '.' :: others ++ 'e' :: power
    | [] => power

/-- The text of a number in a notation for finite magnitudes. -/
def textOf (notate : Decimal → List Char) (value : Float) : String :=
  if value.isNaN then
    "NaN"
  else
    let sign := if value.toBits.toNat < Nat.pow 2 63 then [] else ['-']
    let magnitude :=
      if value.isInf then
        "inf".toList
      else
        notate (Binary.ofFloat value).shortest
    String.ofList (sign ++ magnitude)

/-- The positional text of a number. -/
def plainText (value : Float) : String :=
  textOf positional value

/-- The positional text of a number, with a point. -/
def pointedText (value : Float) : String :=
  textOf (withPoint ∘ positional) value

/-- The mixed text of a number. -/
def mixedText (value : Float) : String :=
  textOf mixed value

end WidgetTemplate.Decimal
