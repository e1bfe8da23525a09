import WidgetTemplate.Text.Hidden

/-!
# Quoted text

A text is shown between double quotes.  Inside, a backslash, a double quote
and the common controls are written as a backslash and one character, and
every other hidden character as its code point in hexadecimal digits between
braces, so that the quoted form is one line and can be read back.
-/

namespace WidgetTemplate.Text

/-- The code point escape of a character. -/
def codePointEscape (char : Char) : List Char :=
  ['\\', 'u', '\x7b'] ++ Nat.toDigits 16 char.toNat ++ ['\x7d']

/-- How one character is written inside quotes. -/
def quotedChar (char : Char) : List Char :=
  match char with
  | '\x00' => ['\\', '0']
  | '\t' => ['\\', 't']
  | '\n' => ['\\', 'n']
  | '\r' => ['\\', 'r']
  | '"' => ['\\', '"']
  | '\\' => ['\\', '\\']
  | other => if isHidden other then codePointEscape other else [other]

/-- The text between double quotes, with escapes. -/
def quoted (text : String) : String :=
  String.ofList ('"' :: text.toList.flatMap quotedChar ++ ['"'])

/-- An optional text: `Some(…)` around the quoted text, or `None`. -/
def quotedOption : Option String → String
  | none => "None"
  | some text => "Some(" ++ quoted text ++ ")"

end WidgetTemplate.Text
