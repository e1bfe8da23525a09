import WidgetTemplate.Node.ReadJson
import WidgetTemplate.Node.ReadYaml
import WidgetTemplate.Source.Format

/-!
# Reading a template

A template is read in the format that was asked for, or in the one its text
looks like.
-/

namespace WidgetTemplate

/-- Why a template is not read. -/
inductive ReadError where
  /-- A file cannot be read. -/
  | file (report : String)
  | json (report : String)
  | yaml (failure : Yaml.Failure)
  deriving DecidableEq, Repr, Inhabited

/-- The report of an error; a text that is not YAML has none. -/
def ReadError.message? : ReadError → Option String
  | .file report => some ("IO error: " ++ report)
  | .json report => some ("invalid JSON IR: " ++ report)
  | .yaml (.mismatch report) => some ("invalid YAML IR: " ++ report)
  | .yaml .malformed => none

/-- Reads a template in a format. -/
def readTemplate (source : String) (format : SourceFormat) :
    Except ReadError Node :=
  match format.resolve source with
  | .json => (Node.ofJsonText source).mapError .json
  | _ => (Node.ofYamlText source).mapError .yaml

end WidgetTemplate
