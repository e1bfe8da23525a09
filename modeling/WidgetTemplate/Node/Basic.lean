import WidgetTemplate.Attribute

/-!
# Template nodes

A template is a tree of nodes: literal text, ordered sequences and declared
elements.  A declared element has a name, attributes and one node as its body,
which is usually a sequence but may be any node.
-/

namespace WidgetTemplate

/-- A node of a template. -/
inductive Node where
  /-- Literal text. -/
  | text (content : String)
  /-- Nodes in document order, possibly none. -/
  | sequence (children : List Node)
  /-- A declared element. -/
  | tag (name : String) (attributes : Attributes) (body : Node)
  deriving Inhabited

namespace Node

/-- The body of an element that is declared without one. -/
def emptyBody : Node :=
  .sequence []

mutual

/-- The number of declared elements in a node. -/
def tagCount : Node → Nat
  | .text _ => 0
  | .sequence children => tagCountAll children
  | .tag _ _ body => 1 + body.tagCount

/-- The number of declared elements in a list of nodes. -/
def tagCountAll : List Node → Nat
  | [] => 0
  | child :: rest => child.tagCount + tagCountAll rest

end

mutual

/--
The serialized form of a node: an object whose only key says which of the
three forms it is.  An element always shows its attributes and its body.
-/
def toJson : Node → Json
  | .text content => .object [("static", .string content)]
  | .sequence children => .object [("multi", .array (toJsonAll children))]
  | .tag name attributes body =>
      .object
        [("tag", .object
          [("name", .string name),
            ("attrs", .object
              (attributes.entries.map fun (key, value) => (key, value.toJson))),
            ("body", body.toJson)])]

/-- The serialized forms of a list of nodes. -/
def toJsonAll : List Node → List Json
  | [] => []
  | child :: rest => child.toJson :: toJsonAll rest

end

end Node

end WidgetTemplate
