import WidgetTemplate.Decimal.Numeral
import WidgetTemplate.Toml.Value

/-!
# Numbers of TOML

Between two digits of a number there may be one underscore.  A decimal integer
has no leading zeros; other bases are told by their first two characters, and
their integers have no sign.  An integer has 64 bits.
-/

namespace WidgetTemplate.Toml.Number

/-- The digits of a text without the underscores between them. -/
def digits? (isDigit : Char → Bool) : List Char → Option (List Char)
  | [] => none
  | [digit] => if isDigit digit then some [digit] else none
  | digit :: '_' :: rest =>
      if isDigit digit then (digits? isDigit rest).map (digit :: ·) else none
  | digit :: rest =>
      if isDigit digit then (digits? isDigit rest).map (digit :: ·) else none

/-- The digits of a decimal integer. -/
def wholeDigits? (text : List Char) : Option (List Char) :=
  match text with
  | '0' :: _ :: _ => none
  | text => digits? Char.isDigit text

/-- An integer of 64 bits. -/
def fitting? (value : Int) : Option Int64 :=
  let word := Int64.ofInt value
  if word.toInt = value then some word else none

/-- The integer of digits in a base. -/
def inBase? (base : Nat) (text : List Char) : Option Int64 := do
  let digits ← digits? (fun char => (Text.digitValue? base char).isSome) text
  fitting? (← Text.digitsValue? base digits)

/-- The integer that a text is. -/
def integer? : List Char → Option Int64
  | '0' :: 'x' :: rest => inBase? 16 rest
  | '0' :: 'o' :: rest => inBase? 8 rest
  | '0' :: 'b' :: rest => inBase? 2 rest
  | text => do
      let (isNegative, rest) := Decimal.splitSign text
      let value ← Text.digitsValue? 10 (← wholeDigits? rest)
      fitting? (if isNegative then -value else value)

/-- Whether a character starts an exponent. -/
def isExponentMark (char : Char) : Bool :=
  char == 'e' || char == 'E'

/-- The fraction behind a point, without underscores. -/
def fraction? : List Char → Option (List Char)
  | [] => some []
  | '.' :: rest => (digits? Char.isDigit rest).map ('.' :: ·)
  | _ => none

/-- The exponent behind a number, without underscores. -/
def exponent? : List Char → Option (List Char)
  | [] => some []
  | mark :: '+' :: rest => (digits? Char.isDigit rest).map (mark :: ·)
  | mark :: '-' :: rest => (digits? Char.isDigit rest).map fun digits =>
      mark :: '-' :: digits
  | mark :: rest => (digits? Char.isDigit rest).map (mark :: ·)

/-- Whether a character may stand in the digits in front of a point. -/
def isWholeChar (char : Char) : Bool :=
  char.isDigit || char == '_'

/--
The finite number that a text with a fraction or an exponent is; a number that
is too large is none, unless it is negative.
-/
def finite? (text : List Char) : Option Float := do
  let (isNegative, rest) := Decimal.splitSign text
  let whole ← wholeDigits? (rest.takeWhile isWholeChar)
  let others := rest.dropWhile isWholeChar
  let fraction ← fraction? (others.takeWhile (!isExponentMark ·))
  let exponent ← exponent? (others.dropWhile (!isExponentMark ·))
  let value ← Decimal.float? (whole ++ fraction ++ exponent)
  if others.isEmpty then
    none
  else if isNegative then
    return -value
  else if value.isInf then
    none
  else
    return value

/-- The number that a text is. -/
def float? (text : List Char) : Option Float :=
  let (isNegative, rest) := Decimal.splitSign text
  match String.ofList rest with
  | "inf" => some (if isNegative then -1.0 / 0.0 else 1.0 / 0.0)
  | "nan" => some (0.0 / 0.0)
  | _ => finite? text

end WidgetTemplate.Toml.Number
