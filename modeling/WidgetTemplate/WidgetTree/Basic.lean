import WidgetTemplate.WidgetFactory

/-!
# The in-memory toolkit

A widget tree is an arena: widgets are numbered in the order in which they are
built and are never removed.  A widget knows its parent and the widgets
attached to it, in the order in which they were attached.  Widgets without a
parent are the roots of the arena.
-/

namespace WidgetTemplate

/-- The number of a widget in its arena. -/
structure WidgetId where
  index : Nat
  deriving DecidableEq, Repr, Inhabited

namespace WidgetId

/-- How messages name a widget. -/
def shown (id : WidgetId) : String :=
  "#" ++ toString id.index

/-- How records name a widget. -/
def label (id : WidgetId) : String :=
  "WidgetId(" ++ toString id.index ++ ")"

end WidgetId

/-- A widget of an arena. -/
structure Widget where
  id : WidgetId
  element : Element
  parent : Option WidgetId
  /-- The widgets attached to this one, in the order of their construction. -/
  children : List WidgetId
  /-- The label of a leaf. -/
  text : Option String
  deriving DecidableEq, Repr, Inhabited

/-- Why a widget is not built. -/
inductive ToolkitError where
  /-- The parent is not in the arena. -/
  | unknownWidget (parent : WidgetId)
  /-- The parent is a leaf. -/
  | notAContainer (element : Element) (parent : WidgetId) (parentElement : Element)
  deriving DecidableEq, Repr

/-- The report of a refused construction. -/
def ToolkitError.message : ToolkitError → String
  | .unknownWidget parent =>
      "unknown widget " ++ parent.shown
  | .notAContainer element parent parentElement =>
      "cannot attach `" ++ element.name ++ "` to " ++ parent.shown ++ ": `" ++
        parentElement.name ++ "` does not take children"

/-- An arena of widgets, in the order of their construction. -/
structure WidgetTree where
  widgets : Array Widget
  deriving DecidableEq, Repr, Inhabited

namespace WidgetTree

/-- The arena without widgets. -/
def empty : WidgetTree where
  widgets := #[]

/-- The number of widgets. -/
def size (tree : WidgetTree) : Nat :=
  tree.widgets.size

/-- Whether there are no widgets. -/
def isEmpty (tree : WidgetTree) : Bool :=
  tree.widgets.isEmpty

/-- The widget with a number. -/
def get? (tree : WidgetTree) (id : WidgetId) : Option Widget :=
  tree.widgets[id.index]?

/-- The parent of a widget, if the widget exists and has one. -/
def parent? (tree : WidgetTree) (id : WidgetId) : Option WidgetId :=
  (tree.get? id).bind (·.parent)

/-- The widgets attached to a widget; none for an unknown number. -/
def children (tree : WidgetTree) (id : WidgetId) : List WidgetId :=
  ((tree.get? id).map (·.children)).getD []

/-- The widgets without a parent, in the order of their construction. -/
def roots (tree : WidgetTree) : List WidgetId :=
  (tree.widgets.toList.filter (·.parent.isNone)).map (·.id)

/--
Walks up from a widget to the first toplevel, for at most `steps` widgets.
-/
def climb (tree : WidgetTree) (id : WidgetId) : Nat → Option WidgetId
  | 0 => none
  | steps + 1 => do
      let widget ← tree.get? id
      if widget.element.category = .toplevel then
        return widget.id
      else
        climb tree (← widget.parent) steps

/--
The toplevel that owns a widget: the nearest among the widget itself and the
widgets above it.  No widget has more widgets above it than the arena holds.
-/
def toplevelOf? (tree : WidgetTree) (id : WidgetId) : Option WidgetId :=
  tree.climb id (tree.size + 1)

/-- The reason why a widget of an element may not be attached to a parent. -/
def refusal? (tree : WidgetTree) (element : Element) (parent : WidgetId) :
    Option ToolkitError :=
  match tree.get? parent with
  | none => some (.unknownWidget parent)
  | some widget =>
      if widget.element.category = .leaf then
        some (.notAContainer element parent widget.element)
      else
        none

/-- The arena with one more widget, attached to its parent if it has one. -/
def attach
    (tree : WidgetTree)
    (element : Element)
    (parent : Option WidgetId)
    (text : Option String) :
    WidgetTree :=
  let id : WidgetId := ⟨tree.size⟩
  let widget : Widget :=
    { id, element, parent, text
      children := [] }
  let widgets := tree.widgets.push widget
  match parent with
  | none => ⟨widgets⟩
  | some parent =>
      ⟨widgets.modify parent.index fun above =>
        { above with children := above.children ++ [id] }⟩

/--
Builds a widget.  A refused widget leaves the arena as it was; a widget that
is built gets the next number.
-/
def insert
    (tree : WidgetTree)
    (element : Element)
    (parent : Option WidgetId)
    (text : Option String) :
    Except ToolkitError WidgetId × WidgetTree :=
  match parent.bind (tree.refusal? element) with
  | some cause => (.error cause, tree)
  | none => (.ok ⟨tree.size⟩, tree.attach element parent text)

/-- The arena as a toolkit for the compiler. -/
def factory : WidgetFactory WidgetTree WidgetId ToolkitError where
  createToplevel kind tree := tree.insert (.toplevel kind) none none
  createContainer kind parent tree := tree.insert (.container kind) parent none
  createLeaf kind parent text tree := tree.insert (.leaf kind) parent (some text)

end WidgetTree

end WidgetTemplate
