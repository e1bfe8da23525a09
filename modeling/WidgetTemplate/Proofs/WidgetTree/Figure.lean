import WidgetTemplate.Proofs.WidgetTree.Enumeration

/-!
# Forests without numbers

What an arena looks like does not depend on the order in which its widgets were
built.  A `Figure` keeps the element and the text of a widget and, in order, the
figures of the widgets attached to it, and forgets all numbers.

Under the arena invariant there are two kinds of figures only: a leaf with its
text and with nothing attached to it, and a widget without a text.
-/

namespace WidgetTemplate

/-- A widget without its number, with what is attached to it. -/
inductive Figure where
  | node (element : Element) (text : Option String) (attached : List Figure)

def Figure.attached : Figure → List Figure
  | .node _ _ attached => attached

namespace Branch

mutual

def figure : Branch → Figure
  | .node widget attached => .node widget.element widget.text (figures attached)

def figures : List Branch → List Figure
  | [] => []
  | branch :: rest => branch.figure :: figures rest

end

theorem figures_eq_map (branches : List Branch) :
    figures branches = branches.map figure := by
  induction branches with
  | nil => rfl
  | cons branch rest induction => rw [figures, induction, List.map_cons]

/-- Figures that are equal come from branches with widgets that look alike. -/
theorem figures_cons_eq {widget other : Widget}
    {attached beside rest later : List Branch}
    (same :
      figures (.node widget attached :: rest) =
        figures (.node other beside :: later)) :
    widget.element = other.element ∧ widget.text = other.text ∧
      figures attached = figures beside ∧ figures rest = figures later := by
  simp only [figures, figure, List.cons.injEq, Figure.node.injEq] at same
  rcases same with ⟨⟨element, text, below⟩, behind⟩
  exact ⟨element, text, below, behind⟩

end Branch

namespace WidgetTree

variable {tree : WidgetTree}

/-- The forest of an arena without the numbers of its widgets. -/
def figures (tree : WidgetTree) : List Figure :=
  Branch.figures tree.forest

/-- A complete branch is a leaf that shows its text, or shows no text itself. -/
theorem WellFormed.complete_cases (formed : tree.WellFormed) {widget : Widget}
    {attached : List Branch}
    (complete : (Branch.node widget attached).Complete tree) :
    (∃ text, widget.element.category = .leaf ∧ widget.text = some text ∧
      attached = []) ∨
      widget.element.category ≠ .leaf ∧ widget.text = none := by
  rcases complete with ⟨found, shown, -⟩
  have labelled := formed.text_iff_leaf widget.id widget found
  by_cases leaf : widget.element.category = .leaf
  · rcases Option.isSome_iff_exists.mp (labelled.mpr leaf) with ⟨text, written⟩
    rw [formed.children_of_leaf found leaf, List.map_eq_nil_iff] at shown
    exact Or.inl ⟨text, leaf, written, shown⟩
  · refine Or.inr ⟨leaf, ?_⟩
    rw [← Option.not_isSome_iff_eq_none]
    exact fun written => leaf (labelled.mp written)

end WidgetTree

end WidgetTemplate
