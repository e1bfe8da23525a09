import WidgetTemplate.Decimal.Nearest
import WidgetTemplate.Text.Hex

/-!
# Reading a decimal numeral

A numeral has a sign or none, digits on one side of the point at least, and an
exponent or none.  It is read as the nearest number of double precision.
-/

namespace WidgetTemplate.Decimal

/-- The sign in front of a text, as whether it is negative, and the rest. -/
def splitSign : List Char → Bool × List Char
  | '-' :: rest => (true, rest)
  | '+' :: rest => (false, rest)
  | rest => (false, rest)

/-- The value of an exponent behind its letter. -/
def exponentOf? (text : List Char) : Option Int :=
  let (isNegative, digits) := splitSign text
  (Text.digitsValue? 10 digits).map fun value =>
    if isNegative then
      -(value : Int)
    else
      value

/-- The exponent that ends a numeral; nothing stands for zero. -/
def ending? : List Char → Option Int
  | [] => some 0
  | 'e' :: rest => exponentOf? rest
  | 'E' :: rest => exponentOf? rest
  | _ => none

/-- The digits in front of the fraction, those of the fraction, and the rest. -/
def splitDigits (text : List Char) : List Char × List Char × List Char :=
  let whole := text.takeWhile Char.isDigit
  match text.dropWhile Char.isDigit with
  | '.' :: rest =>
      (whole, rest.takeWhile Char.isDigit, rest.dropWhile Char.isDigit)
  | rest => (whole, [], rest)

/-- The decimal of a numeral without a sign. -/
def ofUnsigned? (text : List Char) : Option Decimal := do
  let (whole, fraction, rest) := splitDigits text
  let digits ← Text.digitsValue? 10 (whole ++ fraction)
  let exponent ← ending? rest
  return ⟨digits, exponent - fraction.length⟩

/-- The number nearest to a numeral. -/
def float? (text : List Char) : Option Float :=
  let (isNegative, rest) := splitSign text
  (ofUnsigned? rest).map fun decimal =>
    if isNegative then -decimal.toFloat else decimal.toFloat

end WidgetTemplate.Decimal
