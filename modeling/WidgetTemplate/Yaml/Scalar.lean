import WidgetTemplate.Decimal.Numeral
import WidgetTemplate.Decimal.Text
import WidgetTemplate.Node.Schema
import WidgetTemplate.Text.Quoted

/-!
# Values of scalars

A scalar without quotes and without a tag may stand for nothing, a boolean, an
integer or a number, and every other scalar is a string.  A tag asks for one of
these types, and then the text has to fit.  A tag that starts with an
exclamation mark does not name a type.
-/

namespace WidgetTemplate.Yaml

/-- A value that was found, as reports name it. -/
inductive Found where
  /-- A document without a root. -/
  | nothing
  | unit
  | bool (value : Bool)
  | integer (value : Int)
  /-- An integer of more than 64 bits. -/
  | wideInteger (value : Int)
  | float (value : Float)
  | string (value : String)
  | sequence
  | mapping
  /-- A value with a tag that names no type. -/
  | tagged
  /-- A name of a form of node without a value for it. -/
  | bareForm

/-- How reports name what was found. -/
def Found.describe : Found → String
  | .nothing => "Option value"
  | .unit => "unit value"
  | .bool value => "boolean `" ++ toString value ++ "`"
  | .integer value => "integer `" ++ toString value ++ "`"
  | .wideInteger value =>
      "integer `" ++ toString value ++ "` as " ++
        if 0 ≤ value then "u128" else "i128"
  | .float value => "floating point `" ++ Decimal.pointedText value ++ "`"
  | .string value => "string " ++ Text.quoted value
  | .sequence => "sequence"
  | .mapping => "map"
  | .tagged => "enum"
  | .bareForm => "unit variant"

namespace Scalar

/-- Whether a text stands for nothing. -/
def isNull (text : String) : Bool :=
  text == "null" || text == "Null" || text == "NULL" || text == "~"

/-- The boolean a text stands for. -/
def bool? : String → Option Bool
  | "true" => some true
  | "True" => some true
  | "TRUE" => some true
  | "false" => some false
  | "False" => some false
  | "FALSE" => some false
  | _ => none

/--
Whether a text has a leading zero and is digits only, so that it is no number.
-/
def isPadded (text : List Char) : Bool :=
  let digits := (Decimal.splitSign text).2
  1 < digits.length && digits.head? == some '0' && digits.all Char.isDigit

/-- The magnitude of an integer in the notation of a base. -/
def magnitude? : List Char → Option Nat
  | '0' :: 'x' :: digits => Text.digitsValue? 16 digits
  | '0' :: 'o' :: digits => Text.digitsValue? 8 digits
  | '0' :: 'b' :: digits => Text.digitsValue? 2 digits
  | digits => if isPadded digits then none else Text.digitsValue? 10 digits

/-- The integer a text stands for, if 128 bits hold it. -/
def integer? (text : List Char) : Option Found :=
  let (isNegative, digits) := Decimal.splitSign text
  match magnitude? digits with
  | none => none
  | some magnitude =>
      let value : Int := if isNegative then -magnitude else magnitude
      if Int64.minValue.toInt ≤ value ∧ value < UInt64.size then
        some (.integer value)
      else if -Nat.pow 2 127 ≤ value ∧ value < Nat.pow 2 128 then
        some (.wideInteger value)
      else
        none

/-- The number a text stands for; infinity has a name of its own. -/
def float? (text : List Char) : Option Float :=
  match String.ofList text with
  | ".inf" | ".Inf" | ".INF" | "+.inf" | "+.Inf" | "+.INF" => some (1.0 / 0.0)
  | "-.inf" | "-.Inf" | "-.INF" => some (-1.0 / 0.0)
  | ".nan" | ".NaN" | ".NAN" => some (0.0 / 0.0)
  | _ => (Decimal.float? text).filter (·.isFinite)

/-- The value of a text without quotes. -/
def plain (text : String) : Found :=
  let chars := text.toList
  if text.isEmpty || isNull text then
    .unit
  else
    match bool? text, integer? chars with
    | some value, _ => .bool value
    | none, some found => found
    | none, none =>
        match if isPadded chars then none else float? chars with
        | some value => .float value
        | none => .string text

/-- Whether a tag names no type. -/
def isForeign (tag : String) : Bool :=
  tag.toList.head? == some '!'

/-- The report of a text that does not fit the type that its tag asks for. -/
def misfit (text expected : String) : String :=
  Schema.invalidValue (Found.string text).describe expected

/-- The value of a scalar, or the report that it does not fit its tag. -/
def value (tag : Option String) (text : String) (isPlain : Bool) :
    Except String Found :=
  let demand (found : Option Found) (expected : String) : Except String Found :=
    match found with
    | some found => .ok found
    | none => .error (misfit text expected)
  match tag with
  | some "tag:yaml.org,2002:bool" => demand ((bool? text).map .bool) "a boolean"
  | some "tag:yaml.org,2002:int" => demand (integer? text.toList) "an integer"
  | some "tag:yaml.org,2002:float" =>
      demand ((float? text.toList).map .float) "a float"
  | some "tag:yaml.org,2002:null" =>
      demand (if isNull text then some .unit else none) "null"
  | some tag => .ok (if isForeign tag && isPlain then plain text else .string text)
  | none => .ok (if isPlain then plain text else .string text)

end Scalar

end WidgetTemplate.Yaml
