import WidgetTemplate.Toml.Value

/-!
# Blanks, breaks and comments of TOML

A line ends with a line feed, which a carriage return may precede.  A comment
goes on to the end of its line and has no control characters but tabs.
-/

namespace WidgetTemplate.Toml

/-- Whether a character is a space or a tab. -/
def isBlank (char : Char) : Bool :=
  char == ' ' || char == '\t'

/-- Whether a character is a tab or no control character. -/
def isPrintable (char : Char) : Bool :=
  char == '\t' || (0x20 ≤ char.toNat && char.toNat != 0x7f)

/-- What is left of a text after blanks. -/
def skipBlanks (text : List Char) : List Char :=
  text.dropWhile isBlank

/-- What is left of a text after a comment, if there is one. -/
def skipComment (text : List Char) : List Char :=
  match text with
  | '#' :: rest => rest.dropWhile isPrintable
  | rest => rest

/-- What is left of a text after a break, if there is one. -/
def skipBreak? : List Char → Option (List Char)
  | '\n' :: rest => some rest
  | '\r' :: '\n' :: rest => some rest
  | _ => none

/-- What is left of a text after what may end a line. -/
def endLine? (text : List Char) : Option (List Char) :=
  match skipComment (skipBlanks text) with
  | [] => some []
  | rest => skipBreak? rest

/--
What is left of a text after blanks, breaks and comments; every comment ends
with a break.  A list longer than the text bounds the steps.
-/
def skipLines : (steps text : List Char) → List Char
  | [], text => text
  | _ :: steps, text =>
      match skipBreak? (skipComment (skipBlanks text)) with
      | some rest => skipLines steps rest
      | none => skipBlanks text

/-- What is left of a text after blanks, breaks and comments. -/
def skipGaps (text : List Char) : List Char :=
  skipLines (' ' :: text) text

end WidgetTemplate.Toml
