import WidgetTemplate.PathName
import WidgetTemplate.Text.Blank

/-!
# Formats a template is read in

A template is written as JSON or as YAML.  The third format leaves the choice
open: the extension of a path may make it, and else the first visible
character of the text does.
-/

namespace WidgetTemplate

/-- How a template is to be read. -/
inductive SourceFormat where
  /-- Decided by the text. -/
  | auto
  | json
  | yaml
  deriving DecidableEq, Repr, Inhabited

namespace SourceFormat

/-- The name a format is asked for by. -/
def name : SourceFormat → String
  | .auto => "auto"
  | .json => "json"
  | .yaml => "yaml"

/-- The name of a format as one capitalised word. -/
def label : SourceFormat → String
  | .auto => "Auto"
  | .json => "Json"
  | .yaml => "Yaml"

/-- The format a name asks for; YAML has two names. -/
def named? : String → Option SourceFormat
  | "auto" => some .auto
  | "json" => some .json
  | "yaml" => some .yaml
  | "yml" => some .yaml
  | _ => none

/-- The format that the extension of a path names, in letters of either case. -/
def ofExtension? (path : String) : Option SourceFormat :=
  match (PathName.extension? path).map String.toLower with
  | some "json" => some .json
  | some "yaml" => some .yaml
  | some "yml" => some .yaml
  | _ => none

/--
The format a text looks like: JSON if its first visible character opens an
object or an array, and YAML in every other case.
-/
def detect (source : String) : SourceFormat :=
  match Text.firstVisible? source with
  | some '\x7b' => .json
  | some '[' => .json
  | _ => .yaml

/-- The format a text is read in when a format was asked for. -/
def resolve (format : SourceFormat) (source : String) : SourceFormat :=
  match format with
  | .auto => detect source
  | chosen => chosen

end SourceFormat

end WidgetTemplate
