import WidgetTemplate.Text.Entity
import WidgetTemplate.WidgetTree.Forest

/-!
# Writing a tree as markup

A widget is written as a tag of its element's name.  The text of a leaf stands
between its tags, and what is attached to a widget stands on lines of its own,
two blanks deeper.
-/

namespace WidgetTemplate.Markup

/-- The blanks in front of a tag at a depth. -/
def indentation (depth : Nat) : String :=
  String.ofList (List.replicate (2 * depth) ' ')

/-- The text of a widget between its tags. -/
def content (widget : Widget) : String :=
  match widget.text with
  | none => ""
  | some text => Text.withEntities text

/-- The opening tag of an element. -/
def opening (element : Element) : String :=
  "<" ++ element.name ++ ">"

/-- The closing tag of an element. -/
def closing (element : Element) : String :=
  "</" ++ element.name ++ ">"

/-- The lines of branches at a depth; a text may break its line. -/
def lines (depth : Nat) : List Branch → List String
  | [] => []
  | .node widget [] :: rest =>
      (indentation depth ++ opening widget.element ++ content widget ++
        closing widget.element) ::
        lines depth rest
  | .node widget attached :: rest =>
      (indentation depth ++ opening widget.element ++ content widget) ::
        lines (depth + 1) attached ++
        (indentation depth ++ closing widget.element) ::
        lines depth rest

/-- The markup of an arena. -/
def document (tree : WidgetTree) : String :=
  String.join ((lines 0 tree.forest).map (· ++ "\n"))

end WidgetTemplate.Markup
