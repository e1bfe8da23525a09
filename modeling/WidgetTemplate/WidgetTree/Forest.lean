import WidgetTemplate.WidgetTree.Basic

/-!
# An arena as a forest

The forest of an arena holds its roots in order, each with the widgets
attached to it below it.  Everything that walks an arena walks its forest.
-/

namespace WidgetTemplate

/-- A widget with what is attached to it. -/
inductive Branch where
  | node (widget : Widget) (attached : List Branch)
  deriving Inhabited

namespace Branch

/-- The widget a branch starts with. -/
def widget : Branch → Widget
  | .node widget _ => widget

/-- The branches attached to the first widget. -/
def attached : Branch → List Branch
  | .node _ attached => attached

mutual

/-- The widgets of a branch, each before the widgets below it. -/
def preorder : Branch → List Widget
  | .node widget attached => widget :: preorderAll attached

/-- The widgets of branches, in order. -/
def preorderAll : List Branch → List Widget
  | [] => []
  | branch :: rest => branch.preorder ++ preorderAll rest

end

end Branch

namespace WidgetTree

/--
The branches of widgets given by their numbers, down to a depth.  A number
that stands for no widget has no branch.
-/
def branches (tree : WidgetTree) : Nat → List WidgetId → List Branch
  | 0, _ => []
  | depth + 1, ids =>
      ids.filterMap fun id =>
        (tree.get? id).map fun widget =>
          .node widget (tree.branches depth widget.children)

/--
The forest of an arena.  No chain of attached widgets is longer than the arena
is large, so the whole arena is within that depth.
-/
def forest (tree : WidgetTree) : List Branch :=
  tree.branches tree.size tree.roots

end WidgetTree

end WidgetTemplate
