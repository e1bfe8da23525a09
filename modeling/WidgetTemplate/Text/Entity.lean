/-!
# Character entities

Five characters have a meaning in markup and are written as entities: the
ampersand, the two angle brackets and the two quotes.
-/

namespace WidgetTemplate.Text

/-- How one character is written in markup. -/
def entityChar (char : Char) : List Char :=
  match char with
  | '&' => "&amp;".toList
  | '<' => "&lt;".toList
  | '>' => "&gt;".toList
  | '"' => "&quot;".toList
  | '\'' => "&apos;".toList
  | other => [other]

/-- A text as it is written in markup. -/
def withEntities (text : String) : String :=
  String.ofList (text.toList.flatMap entityChar)

end WidgetTemplate.Text
