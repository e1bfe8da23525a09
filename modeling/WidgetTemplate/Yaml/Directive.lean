import WidgetTemplate.Yaml.Property
import WidgetTemplate.Yaml.Token

/-!
# Directives

A line in front of a document that starts with a percent sign says which
version of YAML the document is written in, or what a handle of tags stands
for.  There are no other directives.
-/

namespace WidgetTemplate.Yaml.Directive

/-- The greatest number of digits in a version. -/
def maxDigits : Nat := 9

/-- Reads a number of a version. -/
def readNumber? (cursor : Cursor) : Option (Nat × Cursor) :=
  let (digits, next) := cursor.span Char.isDigit
  if maxDigits < digits.length then
    none
  else
    (Text.digitsValue? 10 digits).map (·, next)

/-- Reads two numbers with a point between them. -/
def readVersion? (cursor : Cursor) : Option (Lexeme × Cursor) := do
  let (major, next) ← readNumber? (cursor.skipWhile isBlank)
  if next.startsWith '.' then
    let (minor, next) ← readNumber? (next.skip 1)
    return (.versionDirective major minor, next)
  else
    none

/-- Reads a handle of tags and what it stands for. -/
def readHandle? (cursor : Cursor) : Option (Lexeme × Cursor) := do
  let (handle, next) ← Property.readHandle? (cursor.skipWhile isBlank)
  let isHandle := handle == ['!'] || Property.isEnclosed handle
  let isSeparated := next.rest.head?.any isBlank
  if isHandle && isSeparated then
    let (expansion, next) ← Property.readFullUri? Property.isUriChar
      (next.skipWhile isBlank)
    if startsGap next.rest then
      return (.tagDirective (String.ofList handle) expansion, next)
    else
      none
  else
    none

/-- Reads a directive and the line it stands on. -/
def read? (cursor : Cursor) : Option (Lexeme × Cursor) := do
  let (name, next) := (cursor.skip 1).span isNameChar
  if !startsGap next.rest then
    none
  else
    let (lexeme, next) ←
      match String.ofList name with
      | "YAML" => readVersion? next
      | "TAG" => readHandle? next
      | _ => none
    let next := next.skipLineEnd
    if startsBreak next.rest then
      return (lexeme, next.takeBreak.2)
    else
      none

end WidgetTemplate.Yaml.Directive
