/-!
# JSON values

The value a JSON text stands for.  A number keeps the way it is written: one
with a fraction or an exponent is not an integer, whatever its value.  The
members of an object stand in the order they are written in.
-/

namespace WidgetTemplate

/-- A JSON number. -/
inductive Json.Number where
  /-- A number written with digits alone. -/
  | integer (value : Int)
  /-- A number written with a fraction or an exponent, as it is written. -/
  | decimal (literal : String)
  deriving DecidableEq, Repr, Inhabited

/-- A JSON value. -/
inductive Json where
  | null
  | bool (value : Bool)
  | number (value : Json.Number)
  | string (value : String)
  | array (items : List Json)
  | object (members : List (String × Json))
  deriving Repr, Inhabited

namespace Json

/-- The number with an integral value. -/
def integer (value : Int) : Json :=
  .number (.integer value)

/-- The number of a count. -/
def natural (value : Nat) : Json :=
  integer (Int.ofNat value)

end Json

end WidgetTemplate
