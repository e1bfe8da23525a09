import Mathlib.Tactic.Tauto
import WidgetTemplate.Compile.Error
import WidgetTemplate.Element
import WidgetTemplate.Node.Basic

/-!
# Templates in document order

What a template says is independent of how its sequences group it.  This
module reads a template in document order in three ways, each of them from
the template alone.

- `Node.items` lists the texts and elements that no other element encloses.
- `Node.visits` lists the moments at which an element is opened or closed.
  A moment may be at fault: an opening if its name stands for no element, a
  closing if it ends a leaf whose items are not exactly one text.
- `Node.outline` numbers the elements and gives for each of them the innermost
  element around it.

`Node.firstFault?_eq_none_iff` relates the last two: no moment is at fault
exactly when every entry of the outline is well formed.
-/

namespace WidgetTemplate

/-! ## Outermost items -/

inductive Item where
  | text (content : String)
  | tag (name : String) (attributes : Attributes) (body : Node)

namespace Node

mutual

/-- The texts and elements of a node that no element of the node encloses. -/
def items : Node → List Item
  | .text content => [.text content]
  | .sequence children => itemsAll children
  | .tag name attributes body => [.tag name attributes body]

def itemsAll : List Node → List Item
  | [] => []
  | child :: rest => child.items ++ itemsAll rest

end

end Node

namespace Item

/-- The number of elements in an item, the item itself counted. -/
def tagCount : Item → Nat
  | .text _ => 0
  | .tag _ _ body => 1 + body.tagCount

def tagCountAll : List Item → Nat
  | [] => 0
  | item :: rest => item.tagCount + tagCountAll rest

@[simp]
theorem tagCountAll_append (left right : List Item) :
    tagCountAll (left ++ right) = tagCountAll left + tagCountAll right := by
  induction left with
  | nil => simp [tagCountAll]
  | cons item rest induction =>
      simp [tagCountAll, induction, Nat.add_assoc]

/-- The shape that items come down to once they are compiled. -/
def shape : List Item → ResultShape
  | [.text _] => .text
  | [.tag _ _ _] => .widget
  | items => .sequence items.length

end Item

mutual

@[simp]
theorem Node.tagCountAll_items :
    (node : Node) → Item.tagCountAll node.items = node.tagCount
  | .text content => rfl
  | .sequence children => Node.tagCountAll_itemsAll children
  | .tag name attributes body => by
      simp [items, Item.tagCountAll, Item.tagCount, tagCount]

@[simp]
theorem Node.tagCountAll_itemsAll :
    (children : List Node) →
      Item.tagCountAll (Node.itemsAll children) = Node.tagCountAll children
  | [] => rfl
  | child :: rest => by
      simp [itemsAll, tagCountAll, tagCountAll_items child,
        tagCountAll_itemsAll rest]

end

/-- The node comes down to one element. -/
def Node.IsElement (node : Node) : Prop :=
  ∃ name attributes body, node.items = [.tag name attributes body]

theorem Node.tagCount_eq_zero {node : Node} {content : String}
    (only : node.items = [.text content]) : node.tagCount = 0 := by
  rw [← Node.tagCountAll_items, only]
  rfl

/-! ## Visits and faults -/

/-- A moment of the walk through a template in document order. -/
inductive Visit where
  | opening (name : String)
  /-- The end of an element whose body has the given items. -/
  | closing (name : String) (items : List Item)

/-- Why a template cannot be built, whatever the toolkit. -/
inductive BuildFault where
  | unregistered (name : String)
  /-- The body of a leaf does not have exactly one item, a text. -/
  | notOneText (name : String) (items : List Item)

def BuildFault.error {ε : Type} : BuildFault → CompileError ε
  | .unregistered name => .classification name
  | .notOneText name items => .shape name (Item.shape items)

/-- No toolkit and no document is to blame for a fault. -/
theorem BuildFault.error_ne {ε : Type} (fault : BuildFault) :
    (∀ cause : ε, fault.error ≠ .factory cause) ∧
      ∀ found, (fault.error : CompileError ε) ≠ .structural found := by
  cases fault with
  | unregistered name => simp [error]
  | notOneText name items => simp [error]

/-- The fault that a moment is at, if any. -/
def Visit.fault? : Visit → Option BuildFault
  | .opening name =>
      match Element.named? name with
      | none => some (.unregistered name)
      | some _ => none
  | .closing name items =>
      match Element.named? name, items with
      | some (.leaf _), [.text _] => none
      | some (.leaf _), _ => some (.notOneText name items)
      | _, _ => none

namespace Node

mutual

/-- The openings and closings of the elements of a node, in document order. -/
def visits : Node → List Visit
  | .text _ => []
  | .sequence children => visitsAll children
  | .tag name _ body =>
      .opening name :: (body.visits ++ [.closing name body.items])

def visitsAll : List Node → List Visit
  | [] => []
  | child :: rest => child.visits ++ visitsAll rest

end

/-- The first fault of a node in document order. -/
def firstFault? (node : Node) : Option BuildFault :=
  node.visits.findSome? Visit.fault?

end Node

/-! ## Outlines -/

/-- An element of a template as its outline lists it. -/
structure Entry where
  name : String
  /-- The number of the innermost element around this one. -/
  enclosing : Option Nat
  items : List Item

namespace Entry

def Registered (entry : Entry) : Prop :=
  (Element.named? entry.name).isSome

/-- If the element is a leaf, its body has exactly one item, a text. -/
def HoldsText (entry : Entry) : Prop :=
  ∀ kind, Element.named? entry.name = some (.leaf kind) →
    ∃ content, entry.items = [.text content]

end Entry

namespace Node

mutual

/--
The elements of a node in document order.  They are numbered from `first`,
and the node as a whole stands inside `enclosing`.
-/
def outlineFrom (enclosing : Option Nat) (first : Nat) : Node → List Entry
  | .text _ => []
  | .sequence children => outlineAllFrom enclosing first children
  | .tag name _ body =>
      { name, enclosing
        items := body.items } ::
        outlineFrom (some first) (first + 1) body

def outlineAllFrom (enclosing : Option Nat) (first : Nat) :
    List Node → List Entry
  | [] => []
  | child :: rest =>
      outlineFrom enclosing first child ++
        outlineAllFrom enclosing (first + child.tagCount) rest

end

/-- The elements of a template in document order, numbered from zero. -/
def outline (node : Node) : List Entry :=
  outlineFrom none 0 node

mutual

@[simp]
theorem length_outlineFrom (enclosing : Option Nat) (first : Nat) :
    (node : Node) → (outlineFrom enclosing first node).length = node.tagCount
  | .text content => rfl
  | .sequence children => length_outlineAllFrom enclosing first children
  | .tag name attributes body => by
      simp [outlineFrom, tagCount, length_outlineFrom _ _ body, Nat.add_comm]

@[simp]
theorem length_outlineAllFrom (enclosing : Option Nat) (first : Nat) :
    (children : List Node) →
      (outlineAllFrom enclosing first children).length = tagCountAll children
  | [] => rfl
  | child :: rest => by
      simp [outlineAllFrom, tagCountAll, length_outlineFrom _ _ child,
        length_outlineAllFrom _ _ rest]

end

theorem outlineFrom_eq_nil
    {node : Node} (nothing : node.tagCount = 0)
    (enclosing : Option Nat) (first : Nat) :
    outlineFrom enclosing first node = [] := by
  apply List.eq_nil_of_length_eq_zero
  rw [length_outlineFrom, nothing]

theorem outlineAllFrom_eq_nil
    {children : List Node} (nothing : tagCountAll children = 0)
    (enclosing : Option Nat) (first : Nat) :
    outlineAllFrom enclosing first children = [] := by
  apply List.eq_nil_of_length_eq_zero
  rw [length_outlineAllFrom, nothing]

@[simp]
theorem length_outline (node : Node) : node.outline.length = node.tagCount :=
  length_outlineFrom none 0 node

end Node

/-! ## Faults and outlines -/

/--
Opening and closing an element go without fault when its entry is well formed.
-/
theorem Entry.faultless_iff (entry : Entry) :
    ((Visit.opening entry.name).fault? = none ∧
        (Visit.closing entry.name entry.items).fault? = none) ↔
      entry.Registered ∧ entry.HoldsText := by
  simp only [Visit.fault?, Registered, HoldsText]
  rcases Element.named? entry.name with _ | (kind | kind | kind)
  · simp
  · simp
  · simp
  · match entry.items with
    | [] => simp
    | [.text content] => simp
    | [.tag _ _ _] => simp
    | _ :: _ :: _ => simp

namespace Node

mutual

theorem visits_faultless_iff (enclosing : Option Nat) (first : Nat) :
    (node : Node) →
      ((∀ visit ∈ node.visits, visit.fault? = none) ↔
        ∀ entry ∈ outlineFrom enclosing first node,
          entry.Registered ∧ entry.HoldsText)
  | .text content => by
      simp [visits, outlineFrom]
  | .sequence children => by
      unfold visits outlineFrom
      exact visitsAll_faultless_iff enclosing first children
  | .tag name attributes body => by
      have inside := visits_faultless_iff (some first) (first + 1) body
      have itself :=
        Entry.faultless_iff
          { name, enclosing
            items := body.items }
      simp only [visits, outlineFrom, List.forall_mem_cons,
        List.forall_mem_append, inside, ← itself]
      simp only [List.not_mem_nil, false_implies, implies_true, and_true]
      tauto

theorem visitsAll_faultless_iff (enclosing : Option Nat) (first : Nat) :
    (children : List Node) →
      ((∀ visit ∈ visitsAll children, visit.fault? = none) ↔
        ∀ entry ∈ outlineAllFrom enclosing first children,
          entry.Registered ∧ entry.HoldsText)
  | [] => by
      simp [visitsAll, outlineAllFrom]
  | child :: rest => by
      simp only [visitsAll, outlineAllFrom, List.forall_mem_append,
        visits_faultless_iff enclosing first child,
        visitsAll_faultless_iff enclosing (first + child.tagCount) rest]

end

/-- Every name in a node stands for an element, and leaves hold one text each. -/
structure Buildable (node : Node) : Prop where
  registered : ∀ entry ∈ node.outline, entry.Registered
  holdsText : ∀ entry ∈ node.outline, entry.HoldsText

theorem firstFault?_eq_none_iff (node : Node) :
    node.firstFault? = none ↔ node.Buildable := by
  rw [firstFault?, List.findSome?_eq_none_iff, visits_faultless_iff none 0 node]
  constructor
  · intro wellFormed
    constructor
    · intro entry listed
      exact (wellFormed entry listed).1
    · intro entry listed
      exact (wellFormed entry listed).2
  · intro buildable entry listed
    exact ⟨buildable.registered entry listed, buildable.holdsText entry listed⟩

/-! ## Outlines of templates with one outermost element -/

mutual

/-- Everything in the body of an element is enclosed. -/
theorem enclosing_isSome (above first : Nat) :
    (node : Node) →
      ∀ entry ∈ outlineFrom (some above) first node, entry.enclosing.isSome
  | .text content => by
      intro entry listed
      cases listed
  | .sequence children => enclosing_isSome_all above first children
  | .tag name attributes body => by
      rw [outlineFrom, List.forall_mem_cons]
      exact ⟨rfl, enclosing_isSome first (first + 1) body⟩

theorem enclosing_isSome_all (above first : Nat) :
    (children : List Node) →
      ∀ entry ∈ outlineAllFrom (some above) first children,
        entry.enclosing.isSome
  | [] => by
      intro entry listed
      cases listed
  | child :: rest => by
      rw [outlineAllFrom, List.forall_mem_append]
      exact
        ⟨enclosing_isSome above first child,
          enclosing_isSome_all above (first + child.tagCount) rest⟩

end

variable {name : String} {attributes : Attributes} {body : Node}

mutual

/-- A node that comes down to one element has the outline of the element. -/
theorem outlineFrom_eq_of_items (enclosing : Option Nat) (first : Nat) :
    (node : Node) → node.items = [.tag name attributes body] →
      outlineFrom enclosing first node =
        outlineFrom enclosing first (.tag name attributes body)
  | .text content, only => by
      cases only
  | .sequence children, only =>
      outlineAllFrom_eq_of_items enclosing first children only
  | .tag name attributes body, only => by
      cases only
      rfl

theorem outlineAllFrom_eq_of_items (enclosing : Option Nat) (first : Nat) :
    (children : List Node) → itemsAll children = [.tag name attributes body] →
      outlineAllFrom enclosing first children =
        outlineFrom enclosing first (.tag name attributes body)
  | [], only => by
      cases only
  | child :: rest, only => by
      rw [outlineAllFrom]
      rcases List.append_eq_singleton_iff.mp only with
        ⟨head, tail⟩ | ⟨head, tail⟩
      · have nothing : child.tagCount = 0 := by
          rw [← tagCountAll_items, head]
          rfl
        rw [outlineFrom_eq_nil nothing, nothing]
        exact outlineAllFrom_eq_of_items enclosing first rest tail
      · have nothing : tagCountAll rest = 0 := by
          rw [← tagCountAll_itemsAll, tail]
          rfl
        rw [outlineAllFrom_eq_nil nothing, List.append_nil]
        exact outlineFrom_eq_of_items enclosing first child head

end

/-- If a template comes down to one element, all others are enclosed. -/
theorem IsElement.outline {node : Node} (single : node.IsElement) :
    ∃ first rest, node.outline = first :: rest ∧ first.enclosing = none ∧
      ∀ entry ∈ rest, entry.enclosing.isSome := by
  rcases single with ⟨name, attributes, body, only⟩
  exact
    ⟨_, _, outlineFrom_eq_of_items none 0 node only, rfl,
      enclosing_isSome 0 1 body⟩

end Node

end WidgetTemplate
