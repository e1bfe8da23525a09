import WidgetTemplate.Json.Printer
import WidgetTemplate.WidgetTree.Forest

/-!
# Writing a tree as nested JSON objects

The roots are the items of an array.  A widget is an object that carries its
number, its element, its category, the text of a leaf, and the objects of the
widgets attached to it.  The members of an object are sorted by key.
-/

namespace WidgetTemplate.Objects

/-- The objects of branches. -/
def ofBranches : List Branch → List Json
  | [] => []
  | .node widget attached :: rest =>
      let head :=
        [("category", Json.string widget.element.category.text),
          ("children", .array (ofBranches attached)),
          ("element", .string widget.element.name),
          ("id", .natural widget.id.index)]
      let members :=
        match widget.text with
        | none => head
        | some text => head ++ [("text", .string text)]
      .object members :: ofBranches rest

/-- The value of an arena: an array with the object of every root. -/
def value (tree : WidgetTree) : Json :=
  .array (ofBranches tree.forest)

/-- The indented text of an arena's value. -/
def document (tree : WidgetTree) : String :=
  (value tree).indented

end WidgetTemplate.Objects
