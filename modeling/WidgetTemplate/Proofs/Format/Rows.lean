import Mathlib.Data.List.Forall2
import WidgetTemplate.Format.Treeviz
import WidgetTemplate.Proofs.Text.Quoted
import WidgetTemplate.Proofs.WidgetTree.Ancestry

/-!
# Every widget has its row in a drawing

A drawing hands the columns of a row down from widget to widget.  Seen from the
arena, what is in front of a widget depends on the widgets above it and on
which of them are the last children of their parents, and on nothing else.
`Draws` says so, and the rows of a drawing are drawn in this way for the widgets
of the arena in the order of its forest.
-/

namespace WidgetTemplate

namespace WidgetTree

variable {tree : WidgetTree}

def isLastChild (tree : WidgetTree) (id : WidgetId) : Bool :=
  match tree.parent? id with
  | none => false
  | some parent => (tree.children parent).getLast? = some id

/-- A child is the last one if no child comes behind it. -/
theorem WellFormed.isLastChild_eq (formed : tree.WellFormed)
    {parent id : WidgetId} {before later : List WidgetId}
    (children : tree.children parent = before ++ id :: later) :
    tree.parent? id = some parent ∧ tree.isLastChild id = later.isEmpty := by
  have member : id ∈ tree.children parent := by simp [children]
  have named := formed.mem_children_iff.mp member
  refine ⟨named, ?_⟩
  rw [isLastChild, named]
  simp only [children]
  cases later with
  | nil => simp
  | cons next rest =>
      -- Children are in ascending order, so one with another behind it
      -- is not the last.
      have ascending := formed.ascending_children parent
      rw [children, List.pairwise_append] at ascending
      have behind := (List.pairwise_cons.mp ascending.2.1).1
      have other : (next :: rest).getLast (List.cons_ne_nil next rest) ≠ id := by
        intro same
        have after := behind _ (List.getLast_mem (List.cons_ne_nil next rest))
        rw [same] at after
        exact Nat.lt_irrefl _ after
      rw [List.getLast?_append_cons, List.getLast?_cons_cons,
        List.getLast?_eq_some_getLast (List.cons_ne_nil next rest)]
      simpa using other

end WidgetTree

namespace Treeviz

open WidgetTree

variable {tree : WidgetTree} {width : Nat}

/-! ## What is in front of a widget -/

/-- The columns that widgets leave to what is below them. -/
def columns (tree : WidgetTree) (ids : List WidgetId) : String :=
  String.join (ids.map fun id => if tree.isLastChild id then "  " else "│ ")

/--
What is in front of the icon of a widget: nothing if it is a root, and otherwise
a column for each widget above it but the root, and a connector.
-/
def front (tree : WidgetTree) (id : WidgetId) (above : List WidgetId) : String :=
  match above with
  | [] => ""
  | _ :: inner =>
      columns tree inner ++ if tree.isLastChild id then "└─ " else "├─ "

/-- The row of a widget. -/
def Draws (tree : WidgetTree) (width : Nat) (id : WidgetId)
    (row : String) : Prop :=
  ∃ widget above, tree.get? id = some widget ∧ tree.Above id above ∧
    row =
      front tree id above ++ icon widget.element.category ++ " " ++
        cut (label widget) width

theorem front_concat (id parent : WidgetId) (above : List WidgetId) :
    front tree id (above ++ [parent]) =
      columns tree (above ++ [parent]).tail ++
        connector (tree.isLastChild id) := by
  cases above with
  | nil => rfl
  | cons root inner => rfl

/-- A widget leaves one more column to what is below it than it has itself. -/
theorem columns_concat (id parent : WidgetId) (above : List WidgetId) :
    columns tree (above ++ [parent] ++ [id]).tail =
      columns tree (above ++ [parent]).tail ++ column (tree.isLastChild id) := by
  have single : columns tree [id] = column (tree.isLastChild id) := by
    simp [columns, column]
  rw [← single, List.tail_append_of_ne_nil (by simp), columns, List.map_append,
    String.join_append]
  rfl

/-! ## The rows of branches -/

theorem children_of_complete {widget : Widget} {attached : List Branch}
    (found : tree.get? widget.id = some widget)
    (shown : attached.map Branch.id = widget.children) :
    tree.children widget.id = [] ++ attached.map Branch.id := by
  rw [children_of_found found, shown, List.nil_append]

/--
The rows of the last children of a widget and of what is below them.  Behind
the columns of the widget, they are as the arena says.
-/
theorem attachedLines_drawn (formed : tree.WellFormed) (width : Nat) :
    (branches : List Branch) → Branch.AllComplete tree branches →
      (parent : WidgetId) → (above before : List WidgetId) →
        tree.Above parent above →
        tree.children parent = before ++ branches.map Branch.id →
          List.Forall₂ (Draws tree width)
            ((Branch.preorderAll branches).map Widget.id)
            (attachedLines width (columns tree (above ++ [parent]).tail) branches)
  | [], _, parent, above, before, _, _ => by
      rw [Branch.preorderAll, attachedLines]
      exact List.Forall₂.nil
  | .node widget attached :: rest, ⟨⟨found, shown, inner⟩, later⟩,
    parent, above, before,
      stands, children => by
      change tree.children parent =
        before ++ widget.id :: rest.map Branch.id at children
      rcases formed.isLastChild_eq children with ⟨named, last⟩
      have below : tree.Above widget.id (above ++ [parent]) := .inner named stands
      rw [List.isEmpty_map] at last
      have row :
          Draws tree width widget.id
            (line width
              (columns tree (above ++ [parent]).tail ++
                connector rest.isEmpty) widget) := by
        refine ⟨widget, above ++ [parent], found, below, ?_⟩
        rw [front_concat, last, line]
      have listed := children_of_complete found shown
      have underneath :=
        attachedLines_drawn formed width attached inner widget.id
          (above ++ [parent]) []
          below listed
      have beside :=
        attachedLines_drawn formed width rest later parent above
          (before ++ [widget.id])
          stands (by rw [children, List.append_assoc]; rfl)
      rw [columns_concat, last] at underneath
      rw [Branch.preorderAll, Branch.preorder, List.map_append,
        List.map_cons, attachedLines]
      exact List.rel_append (List.Forall₂.cons row underneath) beside

theorem rootLines_drawn (formed : tree.WellFormed) (width : Nat) :
    (branches : List Branch) → Branch.AllComplete tree branches →
      (∀ branch ∈ branches, tree.parent? branch.id = none) →
        List.Forall₂ (Draws tree width)
          ((Branch.preorderAll branches).map Widget.id)
          (branches.flatMap (rootLines width))
  | [], _, _ => List.Forall₂.nil
  | .node widget attached :: rest, ⟨⟨found, shown, inner⟩, later⟩, free => by
      rw [List.forall_mem_cons] at free
      have stands : tree.Above widget.id [] := .root free.1
      have listed := children_of_complete found shown
      have row : Draws tree width widget.id (line width "" widget) :=
        ⟨widget, [], found, stands, rfl⟩
      have underneath :=
        attachedLines_drawn formed width attached inner widget.id []
          [] stands listed
      have beside := rootLines_drawn formed width rest later free.2
      rw [Branch.preorderAll, Branch.preorder, List.map_append, List.map_cons,
        List.flatMap_cons, rootLines]
      exact List.rel_append (List.Forall₂.cons row underneath) beside

/-- The rows of an arena are those of its widgets, in the order of its forest. -/
theorem lines_drawn (formed : tree.WellFormed) (width : Nat) :
    List.Forall₂ (Draws tree width)
      ((Branch.preorderAll tree.forest).map Widget.id) (lines width tree) := by
  rcases formed.forest_complete with ⟨shown, complete⟩
  refine rootLines_drawn formed width tree.forest complete fun branch member => ?_
  have root : branch.id ∈ tree.roots := by
    rw [← shown]
    exact List.mem_map_of_mem member
  exact (formed.mem_roots_iff.mp root).2

/-! ## Rows are lines -/

theorem newline_not_mem_label (widget : Widget) :
    '\n' ∉ (label widget).toList := by
  have name : '\n' ∉ widget.element.name.toList := by
    rcases widget.element with kind | kind | kind <;> cases kind <;> decide
  rw [label]
  cases widget.text with
  | none => exact name
  | some text =>
      have quoted := Text.newline_not_mem_quoted text
      simp only [String.toList_append, List.mem_append, not_or]
      exact ⟨⟨name, by decide⟩, quoted⟩

theorem newline_not_mem_cut {text : String}
    (plain : '\n' ∉ text.toList) (width : Nat) :
    '\n' ∉ (cut text width).toList := by
  rw [cut]
  split
  · simp only [String.toList_append, String.toList_ofList, List.mem_append, not_or]
    exact ⟨fun member => plain (List.mem_of_mem_take member), by decide⟩
  · exact plain

/-- A row is on one line, whatever the text of the widget is. -/
theorem Draws.newline_not_mem {id : WidgetId} {row : String}
    (drawn : Draws tree width id row) : '\n' ∉ row.toList := by
  rcases drawn with ⟨widget, above, -, -, rfl⟩
  have labelled := newline_not_mem_cut (newline_not_mem_label widget) width
  have pictured : '\n' ∉ (icon widget.element.category).toList := by
    cases widget.element.category <;> decide
  have behind : '\n' ∉ (front tree id above).toList := by
    cases above with
    | nil => exact List.not_mem_nil
    | cons root inner =>
        rw [front, columns, String.toList_append, String.toList_join,
          List.mem_append, not_or]
        constructor
        · simp only [List.mem_flatMap, List.mem_map, not_exists, not_and]
          rintro _ ⟨other, -, rfl⟩
          split <;> decide
        · split <;> decide
  simp only [String.toList_append, List.mem_append, not_or]
  exact ⟨⟨⟨behind, pictured⟩, by decide⟩, labelled⟩

theorem newline_not_mem_lines (formed : tree.WellFormed) (width : Nat) :
    ∀ row ∈ lines width tree, '\n' ∉ row.toList := by
  intro row member
  rcases List.mem_iff_getElem.mp member with ⟨index, inside, rfl⟩
  have drawn := lines_drawn formed width
  exact (drawn.get (by rw [drawn.length_eq]; exact inside) inside).newline_not_mem

end Treeviz

end WidgetTemplate
