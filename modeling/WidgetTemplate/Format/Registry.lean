import WidgetTemplate.Format.Markup
import WidgetTemplate.Format.Objects
import WidgetTemplate.Format.Treeviz
import WidgetTemplate.SortedMap

/-!
# Output formats by name

A formatter turns an arena into text.  A registry holds formatters by name: a
formatter replaces an earlier one of its name, and the names are listed in
ascending order.
-/

namespace WidgetTemplate

/-- Why an arena is not written. -/
inductive FormatError where
  | notFound (name : String)
  | serialization (cause : String)
  deriving DecidableEq, Repr

/-- The report of a format error. -/
def FormatError.message : FormatError → String
  | .notFound name => "Format '" ++ name ++ "' not found"
  | .serialization cause => "Serialization error: " ++ cause

/-- A way to write an arena. -/
structure Formatter where
  name : String
  description : String
  serialize : WidgetTree → Except FormatError String

namespace Formatter

/-- Draws with a label width. -/
def treeviz (width : Nat) : Formatter where
  name := "treeviz"
  description := "Visual tree representation with indentation and Unicode icons"
  serialize tree := .ok (Treeviz.draw width tree)

/-- Writes markup. -/
def tag : Formatter where
  name := "tag"
  description := "XML-like nesting of widgets with leaf text as content"
  serialize tree := .ok (Markup.document tree)

/-- Writes JSON. -/
def json : Formatter where
  name := "json"
  description := "Widget tree as nested JSON objects"
  serialize tree := .ok (Objects.document tree)

end Formatter

/-- Formatters by name. -/
structure FormatRegistry where
  formatters : SortedMap Formatter

namespace FormatRegistry

/-- The registry without formatters. -/
def empty : FormatRegistry where
  formatters := .empty

/-- The registry with a formatter in the place of any other of its name. -/
def register (registry : FormatRegistry) (formatter : Formatter) :
    FormatRegistry where
  formatters := registry.formatters.insert formatter.name formatter

/-- The registry of the formatters there always are. -/
def withDefaults : FormatRegistry :=
  empty
    |>.register (.treeviz Treeviz.defaultLabelWidth)
    |>.register .tag
    |>.register .json

/-- The formatter of a name. -/
def get? (registry : FormatRegistry) (name : String) : Option Formatter :=
  registry.formatters.find? name

/-- Whether there is a formatter of a name. -/
def has (registry : FormatRegistry) (name : String) : Bool :=
  registry.formatters.contains name

/-- Writes an arena with the formatter of a name. -/
def serialize
    (registry : FormatRegistry)
    (tree : WidgetTree)
    (name : String) :
    Except FormatError String :=
  match registry.get? name with
  | none => .error (.notFound name)
  | some formatter => formatter.serialize tree

/-- The names there are formatters of, in ascending order. -/
def names (registry : FormatRegistry) : List String :=
  registry.formatters.keys

end FormatRegistry

end WidgetTemplate
