import WidgetTemplate.Json.Value
import WidgetTemplate.SortedMap
import WidgetTemplate.Text.Quoted

/-!
# Attributes of an element

An attribute value is a boolean, a signed integer of 64 bits or a string: the
property types a widget toolkit understands.  The attributes of an element are
kept by name, so the order they are written in does not matter.
-/

namespace WidgetTemplate

/-- The value of an attribute. -/
inductive AttributeValue where
  | bool (value : Bool)
  | integer (value : Int64)
  | string (value : String)
  deriving DecidableEq, Repr, Inhabited

/-- The attributes of an element, by name. -/
abbrev Attributes := SortedMap AttributeValue

namespace AttributeValue

/-- The text an attribute value is displayed as; strings stand in quotes. -/
def display : AttributeValue → String
  | .bool value => toString value
  | .integer value => toString value.toInt
  | .string value => Text.quoted value

/-- The value as JSON. -/
def toJson : AttributeValue → Json
  | .bool value => .bool value
  | .integer value => .integer value.toInt
  | .string value => .string value

/-- Whether a number is a signed integer of 64 bits. -/
def fitsInteger (value : Int) : Bool :=
  Int64.minValue.toInt ≤ value && value ≤ Int64.maxValue.toInt

/--
The attribute value of a JSON value: a boolean, a string, or an integer that
fits.  A number with a fraction or an exponent is never an integer.
-/
def ofJson? : Json → Option AttributeValue
  | .bool value => some (.bool value)
  | .string value => some (.string value)
  | .number (.integer value) =>
      if fitsInteger value then
        some (.integer (Int64.ofInt value))
      else
        none
  | _ => none

end AttributeValue

end WidgetTemplate
