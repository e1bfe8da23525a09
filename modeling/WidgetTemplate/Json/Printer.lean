import WidgetTemplate.Json.Value

/-!
# The two layouts of JSON text

The compact layout has no blanks at all.  The indented layout starts a line
for every item and every member, two blanks deeper than the bracket around it,
and keeps an empty array or object on one line.

Both printers put the text of a value in front of the text that follows it.
-/

namespace WidgetTemplate.Json

/-- The sixteen digits of hexadecimal notation. -/
def hexDigit (value : Nat) : Char :=
  Nat.digitChar (value % 16)

/-- How one character is written in a JSON string. -/
def escapedChar (char : Char) : List Char :=
  match char with
  | '"' => ['\\', '"']
  | '\\' => ['\\', '\\']
  | '\x08' => ['\\', 'b']
  | '\x0c' => ['\\', 'f']
  | '\n' => ['\\', 'n']
  | '\r' => ['\\', 'r']
  | '\t' => ['\\', 't']
  | other =>
      if other.toNat < 0x20 then
        ['\\', 'u', '0', '0', hexDigit (other.toNat / 16), hexDigit other.toNat]
      else
        [other]

/-- A JSON string, in front of `rest`. -/
def stringOnto (text : String) (rest : List Char) : List Char :=
  '"' :: text.toList.flatMap escapedChar ++ '"' :: rest

/-- A JSON number, in front of `rest`. -/
def Number.onto (number : Number) (rest : List Char) : List Char :=
  match number with
  | .integer value => (toString value).toList ++ rest
  | .decimal literal => literal.toList ++ rest

/-- A value without parts, in front of `rest`. -/
def wordOnto (word : String) (rest : List Char) : List Char :=
  word.toList ++ rest

mutual

/-- The compact text of a value, in front of `rest`. -/
def compactOnto : Json → List Char → List Char
  | .null, rest => wordOnto "null" rest
  | .bool true, rest => wordOnto "true" rest
  | .bool false, rest => wordOnto "false" rest
  | .number value, rest => value.onto rest
  | .string value, rest => stringOnto value rest
  | .array items, rest => '[' :: compactItems items (']' :: rest)
  | .object members, rest => '\x7b' :: compactMembers members ('\x7d' :: rest)

/-- Items with commas between them, in front of `rest`. -/
def compactItems : List Json → List Char → List Char
  | [], rest => rest
  | [item], rest => compactOnto item rest
  | item :: next :: items, rest =>
      compactOnto item (',' :: compactItems (next :: items) rest)

/-- Members with commas between them, in front of `rest`. -/
def compactMembers : List (String × Json) → List Char → List Char
  | [], rest => rest
  | [(key, value)], rest => stringOnto key (':' :: compactOnto value rest)
  | (key, value) :: next :: members, rest =>
      stringOnto key
        (':' :: compactOnto value (',' :: compactMembers (next :: members) rest))

end

/-- A line break and the indentation of a level, in front of `rest`. -/
def lineOnto (level : Nat) (rest : List Char) : List Char :=
  '\n' :: List.replicate (2 * level) ' ' ++ rest

mutual

/-- The indented text of a value that stands at a level, in front of `rest`. -/
def indentedOnto (level : Nat) : Json → List Char → List Char
  | .null, rest => wordOnto "null" rest
  | .bool true, rest => wordOnto "true" rest
  | .bool false, rest => wordOnto "false" rest
  | .number value, rest => value.onto rest
  | .string value, rest => stringOnto value rest
  | .array [], rest => wordOnto "[]" rest
  | .array (item :: items), rest =>
      '[' :: indentedItems (level + 1) (item :: items)
        (lineOnto level (']' :: rest))
  | .object [], rest => wordOnto "\x7b\x7d" rest
  | .object (member :: members), rest =>
      '\x7b' :: indentedMembers (level + 1) (member :: members)
        (lineOnto level ('\x7d' :: rest))

/-- Items on lines of their own, in front of `rest`. -/
def indentedItems (level : Nat) : List Json → List Char → List Char
  | [], rest => rest
  | [item], rest => lineOnto level (indentedOnto level item rest)
  | item :: next :: items, rest =>
      lineOnto level
        (indentedOnto level item (',' :: indentedItems level (next :: items) rest))

/-- Members on lines of their own, in front of `rest`. -/
def indentedMembers (level : Nat) : List (String × Json) → List Char → List Char
  | [], rest => rest
  | [(key, value)], rest =>
      lineOnto level (stringOnto key (':' :: ' ' :: indentedOnto level value rest))
  | (key, value) :: next :: members, rest =>
      lineOnto level
        (stringOnto key
          (':' :: ' ' ::
            indentedOnto level value
              (',' :: indentedMembers level (next :: members) rest)))

end

/-- The compact text of a value. -/
def compact (value : Json) : String :=
  String.ofList (compactOnto value [])

/-- The indented text of a value. -/
def indented (value : Json) : String :=
  String.ofList (indentedOnto 0 value [])

end WidgetTemplate.Json
