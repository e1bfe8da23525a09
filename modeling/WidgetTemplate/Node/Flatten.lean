import WidgetTemplate.Node.Basic

/-!
# Flattening of sequences

Flattening a template leaves no sequence directly inside a sequence, and no
sequence of exactly one node: such a sequence is replaced by the node.  Bodies
of elements are flattened too.  Texts, names and attributes stay as they are.
-/

namespace WidgetTemplate.Node

/-- The nodes a node contributes to a sequence around it. -/
def parts : Node → List Node
  | .sequence children => children
  | other => [other]

/-- The one node of a list, or else the sequence of the list. -/
def ofParts : List Node → Node
  | [only] => only
  | nodes => .sequence nodes

mutual

/-- The node without nested sequences and without sequences of one node. -/
def flatten : Node → Node
  | .text content => .text content
  | .sequence children => ofParts (flattenAll children)
  | .tag name attributes body => .tag name attributes body.flatten

/-- The parts of the flattened nodes of a list, in order. -/
def flattenAll : List Node → List Node
  | [] => []
  | child :: rest => child.flatten.parts ++ flattenAll rest

end

mutual

/--
How many texts and elements a node contributes to a flattened sequence around
it, and how many sequences in it flattening replaces by their only node.
-/
def census : Node → Nat × Nat
  | .text _ => (1, 0)
  | .sequence children =>
      let (contributed, elided) := censusAll children
      (contributed, elided + if contributed = 1 then 1 else 0)
  | .tag _ _ body => (1, body.census.2)

/-- The sums of both numbers over a list of nodes. -/
def censusAll : List Node → Nat × Nat
  | [] => (0, 0)
  | child :: rest =>
      let (contributed, elided) := child.census
      let (later, elidedLater) := censusAll rest
      (contributed + later, elided + elidedLater)

end

/-- How many sequences flattening replaces by their only node. -/
def elisions (node : Node) : Nat :=
  node.census.2

end WidgetTemplate.Node
