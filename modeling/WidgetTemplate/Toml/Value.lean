/-!
# Values of TOML
-/

namespace WidgetTemplate.Toml

/-- A value of a TOML document. -/
inductive Value where
  | string (text : String)
  | integer (value : Int64)
  | float (value : Float)
  | bool (value : Bool)
  /-- A date, a time or both, as it is written in full. -/
  | moment (text : String)
  | array (items : List Value)
  | table (entries : List (String × Value))
  deriving Inhabited

/--
Reads something from the start of a text and returns what is left; there is
nothing where the text is not TOML.
-/
abbrev Reader (α : Type) := List Char → Option (α × List Char)

end WidgetTemplate.Toml
