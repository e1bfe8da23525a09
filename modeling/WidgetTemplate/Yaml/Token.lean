import WidgetTemplate.Yaml.Cursor

/-!
# Tokens of YAML

Tokens are the punctuation and the scalars of YAML text, and with them the
starts and ends of blocks that only indentation shows.
-/

namespace WidgetTemplate.Yaml

/-- What a token is. -/
inductive Lexeme where
  | streamEnd
  | versionDirective (major minor : Nat)
  | tagDirective (handle expansion : String)
  | documentStart
  | documentEnd
  | blockSequenceStart
  | blockMappingStart
  | blockEnd
  | flowSequenceStart
  | flowSequenceEnd
  | flowMappingStart
  | flowMappingEnd
  | blockEntry
  | flowEntry
  | key
  | value
  | reference (name : String)
  | anchor (name : String)
  | tag (handle suffix : String)
  /-- A text, and whether it is written without quotes and on its line. -/
  | scalar (text : String) (isPlain : Bool)
  deriving DecidableEq, Repr, Inhabited

/-- A token and the places where it starts and stops. -/
structure Token where
  lexeme : Lexeme
  start : Mark
  stop : Mark
  deriving Repr, Inhabited

end WidgetTemplate.Yaml
