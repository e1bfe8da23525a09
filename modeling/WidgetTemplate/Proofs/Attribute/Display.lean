import Std.Data.String.ToInt
import WidgetTemplate.Attribute
import WidgetTemplate.Format.Treeviz
import WidgetTemplate.Proofs.Text.Lines
import WidgetTemplate.Proofs.Text.Quoted

/-!
# Displayed attribute values can be told apart

The text that an attribute value is displayed as tells the kind of the value: a
string stands in quotes, and an integer has a digit or a sign where a boolean
has a letter.  A string that spells a boolean or an integer is therefore not
mistaken for one.  `ofDisplay?` reads the value back from the text alone, so
that different values are displayed differently.
-/

namespace WidgetTemplate

namespace AttributeValue

/-- The boolean that a word spells. -/
def boolean? : String → Option Bool
  | "true" => some true
  | "false" => some false
  | _ => none

theorem boolean?_eq_none {shown : String} (absent : 'e' ∉ shown.toList) :
    boolean? shown = none := by
  unfold boolean?
  split
  · exact absurd (by decide) absent
  · exact absurd (by decide) absent
  · rfl

/-- The value that is displayed as a text. -/
def ofDisplay? (shown : String) : Option AttributeValue :=
  (Text.unquoted? shown).map string <|>
    (boolean? shown).map bool <|>
      shown.toInt?.map fun value => integer (Int64.ofInt value)

theorem ofDisplay?_integer (value : Int64) :
    ofDisplay? (integer value).display = some (integer value) := by
  have noQuote : '"' ∉ (toString value.toInt).toList :=
    Text.notMem_toString rfl (by decide) value.toInt
  have noLetter : 'e' ∉ (toString value.toInt).toList :=
    Text.notMem_toString rfl (by decide) value.toInt
  rw [display, ofDisplay?, Text.unquoted?_eq_none noQuote,
    boolean?_eq_none noLetter, Int.toString_eq_repr, Int.toInt?_repr]
  simp

/-- A value is read back from the text that it is displayed as. -/
theorem ofDisplay?_display (value : AttributeValue) :
    ofDisplay? value.display = some value := by
  cases value with
  | bool value =>
      cases value with
      | false => rfl
      | true => rfl
  | integer value => exact ofDisplay?_integer value
  | string text =>
      rw [display, ofDisplay?, Text.unquoted?_quoted]
      rfl

theorem display_injective : Function.Injective display := by
  intro left right same
  have read := ofDisplay?_display left
  rw [same, ofDisplay?_display] at read
  exact (Option.some.inj read).symm

/--
The text that an attribute value is displayed as is unambiguous:

- Two values have the same text only if they are the same value, also if they
  are of different kinds.
- The text of a string is one line.  It has a double quote at either end, and in
  between the characters of the string, of which every double quote and every
  backslash is escaped.
- Reading the escapes gives the string back.
- A leaf is labelled with its name and with its text in the same form.
-/
theorem display_is_unambiguous :
    (∀ left right : AttributeValue, left.display = right.display ↔ left = right) ∧
      ∀ text : String,
        (∃ inner, (string text).display.toList = '"' :: inner ++ ['"'] ∧
          Text.Escapes text.toList inner) ∧
        Text.IsLine (string text).display ∧
        Text.unquoted? (string text).display = some text ∧
        ∀ widget : Widget,
          Treeviz.label { widget with text := some text } =
            widget.element.name ++ " " ++ (string text).display := by
  constructor
  · intro left right
    exact display_injective.eq_iff
  · intro text
    refine ⟨⟨_, Text.toList_quoted text, Text.escapes_flatMap_quotedChar _⟩,
      Text.isLine_quoted text, Text.unquoted?_quoted text, ?_⟩
    intro widget
    rfl

end AttributeValue

end WidgetTemplate
