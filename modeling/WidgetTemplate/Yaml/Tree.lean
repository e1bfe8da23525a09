import WidgetTemplate.Yaml.Cursor

/-!
# Documents of YAML

A document is a tree of scalars, sequences, mappings and references to nodes
with an anchor.  Every node remembers where it starts, because reports say so.
A reference may lead to a node around it, so following references need not
come to an end.
-/

namespace WidgetTemplate.Yaml

/-- Where a node starts and what its properties are. -/
structure Label where
  mark : Mark
  tag : Option String
  /-- The number that references to the node use. -/
  anchor : Option Nat
  deriving Repr, Inhabited

/-- A node of a document. -/
inductive Tree where
  /-- The node with an anchor. -/
  | reference (mark : Mark) (anchor : Nat)
  /-- A text, and whether it is written without quotes. -/
  | scalar (label : Label) (text : String) (isPlain : Bool)
  | sequence (label : Label) (items : List Tree)
  /-- Keys and values in the order they are written in. -/
  | mapping (label : Label) (entries : List (Tree × Tree))
  deriving Inhabited

namespace Tree

/-- Where a node starts. -/
def mark : Tree → Mark
  | .reference mark _ => mark
  | .scalar label _ _ => label.mark
  | .sequence label _ => label.mark
  | .mapping label _ => label.mark

/-- The node as a target of references, if it has an anchor. -/
def asTarget (tree : Tree) (label : Label) : List (Nat × Tree) :=
  match label.anchor with
  | some anchor => [(anchor, tree)]
  | none => []

mutual

/-- The nodes with an anchor, in the order they start in. -/
def targets : Tree → List (Nat × Tree)
  | .reference _ _ => []
  | .scalar label text isPlain => (Tree.scalar label text isPlain).asTarget label
  | .sequence label items =>
      (Tree.sequence label items).asTarget label ++ targetsAll items
  | .mapping label entries =>
      (Tree.mapping label entries).asTarget label ++ targetsEntries entries

/-- The nodes with an anchor in a list of nodes. -/
def targetsAll : List Tree → List (Nat × Tree)
  | [] => []
  | item :: rest => item.targets ++ targetsAll rest

/-- The nodes with an anchor in a list of entries. -/
def targetsEntries : List (Tree × Tree) → List (Nat × Tree)
  | [] => []
  | (key, value) :: rest => key.targets ++ value.targets ++ targetsEntries rest

end

mutual

/-- The size of a node: a collection counts for its start and for its end. -/
def size : Tree → Nat
  | .reference _ _ => 1
  | .scalar _ _ _ => 1
  | .sequence _ items => 2 + sizeAll items
  | .mapping _ entries => 2 + sizeEntries entries

/-- The size of a list of nodes. -/
def sizeAll : List Tree → Nat
  | [] => 0
  | item :: rest => item.size + sizeAll rest

/-- The size of a list of entries. -/
def sizeEntries : List (Tree × Tree) → Nat
  | [] => 0
  | (key, value) :: rest => key.size + value.size + sizeEntries rest

end

end Tree

/-- A document: its root, unless it has none, and where its text stops. -/
structure Document where
  root : Option Tree
  stop : Mark
  deriving Inhabited

end WidgetTemplate.Yaml
