import WidgetTemplate.Text.Quoted
import WidgetTemplate.WidgetTree.Forest

/-!
# Drawing a tree with one line per widget

Every root starts a block of its own.  A widget below a root stands behind a
connector, and two columns for every widget between it and the root tell
whether more widgets follow there.  A label longer than the label width is cut
and ends in three dots.
-/

namespace WidgetTemplate.Treeviz

/-- The label width unless another one is asked for. -/
def defaultLabelWidth : Nat := 30

/-- The icon of a category. -/
def icon : Category → String
  | .toplevel => "⧉"
  | .container => "☰"
  | .leaf => "•"

/-- The name of a widget, and the text of a leaf in quotes. -/
def label (widget : Widget) : String :=
  match widget.text with
  | none => widget.element.name
  | some text => widget.element.name ++ " " ++ Text.quoted text

/-- At most `width` characters of a text; three dots stand for the others. -/
def cut (text : String) (width : Nat) : String :=
  if width < text.length then
    String.ofList (text.toList.take width) ++ "..."
  else
    text

/-- The line of a widget behind what is drawn in front of it. -/
def line (width : Nat) (front : String) (widget : Widget) : String :=
  front ++ icon widget.element.category ++ " " ++ cut (label widget) width

/-- The connector of a widget, by whether it is the last at its place. -/
def connector (isLast : Bool) : String :=
  if isLast then "└─ " else "├─ "

/-- The column a widget leaves to what is below it. -/
def column (isLast : Bool) : String :=
  if isLast then "  " else "│ "

/-- The lines of branches behind the columns of the widgets above them. -/
def attachedLines (width : Nat) (columns : String) : List Branch → List String
  | [] => []
  | .node widget attached :: rest =>
      line width (columns ++ connector rest.isEmpty) widget ::
        attachedLines width (columns ++ column rest.isEmpty) attached ++
        attachedLines width columns rest

/-- The lines of a root and of everything below it. -/
def rootLines (width : Nat) : Branch → List String
  | .node widget attached =>
      line width "" widget :: attachedLines width "" attached

/-- The lines of an arena, one for each widget. -/
def lines (width : Nat) (tree : WidgetTree) : List String :=
  tree.forest.flatMap (rootLines width)

/-- The drawing of an arena. -/
def draw (width : Nat) (tree : WidgetTree) : String :=
  String.join ((lines width tree).map (· ++ "\n"))

end WidgetTemplate.Treeviz
