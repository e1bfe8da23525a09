import WidgetTemplate.Proofs.WidgetTree.Growth

/-!
# What can happen to an arena

An arena is changed in three ways only: by a request, by compiling a template
under some current parent, and by compiling a document.  Requests may name a
parent that does not exist, and compiles may fail halfway.

A compile is a list of requests as far as the arena is concerned, so requests
alone already reach every arena, which is `reachable_iff_performAll`.  The
arena invariant therefore holds after every history.
-/

namespace WidgetTemplate

namespace WidgetTree

variable {tree : WidgetTree}

/-! ## Histories -/

/-- One thing that is done to an arena from outside. -/
inductive Operation where
  | ask (request : Request WidgetId)
  | compile (node : Node) (context : Context WidgetId)
  | compileDocument (document : Node)

/-- The arena after an operation, however the operation ended. -/
def perform (tree : WidgetTree) : Operation → WidgetTree
  | .ask request => (request.ask factory tree).2
  | .compile node context =>
      (Effect.runFrom (WidgetTemplate.compile factory node)
        { toolkit := tree
          context }).2.toolkit
  | .compileDocument document =>
      (WidgetTemplate.compileDocument factory document tree).2.toolkit

def performAll (tree : WidgetTree) (operations : List Operation) : WidgetTree :=
  operations.foldl perform tree

/-- An operation leads from a reachable arena to a reachable arena. -/
theorem Reachable.perform (reachable : tree.Reachable) (operation : Operation) :
    (tree.perform operation).Reachable := by
  cases operation with
  | ask request => exact reachable.ask request
  | compile node context =>
      rw [WidgetTree.perform, toolkit_compile numbering]
      exact reachable.askAll rfl
  | compileDocument document =>
      rw [WidgetTree.perform, toolkit_compileDocument numbering]
      exact reachable.askAll rfl

theorem Reachable.performAll (reachable : tree.Reachable)
    (operations : List Operation) :
    (tree.performAll operations).Reachable := by
  induction operations generalizing tree with
  | nil => exact reachable
  | cons operation rest induction => exact induction (reachable.perform operation)

/-- Requests alone reach every arena that histories with compiles lead to. -/
theorem reachable_iff_performAll :
    tree.Reachable ↔ ∃ operations, empty.performAll operations = tree := by
  constructor
  · intro reachable
    induction reachable with
    | empty => exact ⟨[], rfl⟩
    | ask request before induction =>
        rcases induction with ⟨operations, rfl⟩
        refine ⟨operations ++ [.ask request], ?_⟩
        rw [WidgetTree.performAll, List.foldl_append]
        rfl
  · rintro ⟨operations, rfl⟩
    exact Reachable.empty.performAll operations

/-! ## Parents and children -/

theorem WellFormed.children_eq_attachedTo (formed : tree.WellFormed)
    (parent : WidgetId) :
    tree.children parent = tree.attachedTo parent := by
  rw [children]
  cases found : tree.get? parent with
  | some widget => exact formed.children_eq parent widget found
  | none =>
      -- A parent that is not in the arena is named by no widget.
      refine (List.filter_eq_nil_iff.mpr fun child member => ?_).symm
      rcases exists_get? (mem_ids.mp member) with ⟨widget, there⟩
      simp only [parent?, there, Option.bind_some, decide_eq_true_eq]
      intro named
      rcases (formed.parent_before child widget parent there named).2 with
        ⟨above, present, -⟩
      rw [found] at present
      cases present

/-- The two copies of the parent relation tell the same. -/
theorem WellFormed.mem_children_iff (formed : tree.WellFormed)
    {child parent : WidgetId} :
    child ∈ tree.children parent ↔ tree.parent? child = some parent := by
  simp only [formed.children_eq_attachedTo, attachedTo, List.mem_filter,
    mem_ids, decide_eq_true_eq, and_iff_right_iff_imp]
  intro named
  rcases Option.bind_eq_some_iff.mp named with ⟨widget, found, -⟩
  exact get?_lt found

theorem WellFormed.parent?_of_mem (formed : tree.WellFormed) {id child : WidgetId}
    {widget : Widget} (found : tree.get? id = some widget)
    (member : child ∈ widget.children) :
    tree.parent? child = some id := by
  rw [← formed.mem_children_iff, children_of_found found]
  exact member

theorem WellFormed.ascending_children (formed : tree.WellFormed)
    (parent : WidgetId) :
    (tree.children parent).Pairwise
      fun first second => first.index < second.index := by
  rw [formed.children_eq_attachedTo]
  exact tree.ascending_ids.filter _

theorem WellFormed.children_of_leaf (formed : tree.WellFormed)
    {id : WidgetId} {widget : Widget} (found : tree.get? id = some widget)
    (leaf : widget.element.category = .leaf) :
    widget.children = [] := by
  refine List.eq_nil_iff_forall_not_mem.mpr fun child member => ?_
  rcases Option.bind_eq_some_iff.mp (formed.parent?_of_mem found member) with
    ⟨below, there, named⟩
  rcases (formed.parent_before child below id there named).2 with
    ⟨above, present, open_⟩
  rw [found] at present
  cases present
  exact open_ leaf

/--
The arena invariant.  Whatever was done to an arena that was empty at first,
with parents that need not exist and with compiles that may have failed:

- A widget has the number of its place.
- The parent of a widget is in the arena, is no leaf, and came before it.
- The children of a widget are the widgets that name it as their parent.
- Children are listed by number, so none is listed twice.
- A leaf has no children.
- A widget has a text exactly when it is a leaf.
- A toplevel has no parent.
-/
theorem performAll_keeps_arena (operations : List Operation) :
    let tree := empty.performAll operations
    (∀ id widget, tree.get? id = some widget → widget.id = id) ∧
      (∀ id widget parent, tree.get? id = some widget →
        widget.parent = some parent →
          parent.index < id.index ∧
            ∃ above, tree.get? parent = some above ∧
              above.element.category ≠ .leaf) ∧
      (∀ child parent,
        child ∈ tree.children parent ↔ tree.parent? child = some parent) ∧
      (∀ parent,
        (tree.children parent).Pairwise
          fun first second => first.index < second.index) ∧
      (∀ id widget, tree.get? id = some widget →
        widget.element.category = .leaf → widget.children = []) ∧
      (∀ id widget, tree.get? id = some widget →
        (widget.text.isSome ↔ widget.element.category = .leaf)) ∧
      (∀ id widget, tree.get? id = some widget →
        widget.element.category = .toplevel → widget.parent = none) := by
  intro tree
  have formed := (Reachable.empty.performAll operations).wellFormed
  refine ⟨formed.numbered, formed.parent_before, ?_, formed.ascending_children,
    ?_, formed.text_iff_leaf, formed.toplevel_parent⟩
  · intro child parent
    exact formed.mem_children_iff
  · intro id widget found leaf
    exact formed.children_of_leaf found leaf

/--
A button under a parent that is missing is refused, a box is built, and a
template is compiled under a parent that it builds itself before it fails.
-/
theorem performAll_keeps_arena_through_failures :
    let node : Node :=
      .sequence
        [.tag "main_dialog" .empty (.sequence []),
          .tag "push_button" .empty (.text "ok"),
          .tag "slider" .empty (.sequence [])]
    let tree :=
      empty.performAll
        [.ask (.leaf .pushButton (some ⟨5⟩) "lost"),
          .ask (.container .vbox none),
          .compile node (Context.start (some ⟨1⟩)),
          .compileDocument node]
    let button : Widget :=
      { id := ⟨2⟩
        element := .leaf .pushButton
        parent := some ⟨1⟩
        children := []
        text := some "ok" }
    tree.get? ⟨2⟩ = some button ∧
      (⟨1⟩ : WidgetId).index < (⟨2⟩ : WidgetId).index ∧
      button.children = [] ∧
      tree.children ⟨1⟩ = [⟨2⟩] ∧
      (⟨2⟩ ∈ tree.children ⟨1⟩ ↔ tree.parent? ⟨2⟩ = some ⟨1⟩) ∧
      tree.size = 5 := by
  intro node tree button
  have found : tree.get? ⟨2⟩ = some button := rfl
  rcases performAll_keeps_arena
      [.ask (.leaf .pushButton (some ⟨5⟩) "lost"),
        .ask (.container .vbox none),
        .compile node (Context.start (some ⟨1⟩)),
        .compileDocument node] with
    ⟨-, before, both, -, leaves, -, -⟩
  exact
    ⟨found, (before ⟨2⟩ button ⟨1⟩ found rfl).1, leaves ⟨2⟩ button found rfl,
      rfl, both ⟨2⟩ ⟨1⟩, rfl⟩

end WidgetTree

end WidgetTemplate
