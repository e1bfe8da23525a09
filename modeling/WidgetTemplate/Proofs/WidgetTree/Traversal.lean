import WidgetTemplate.Proofs.WidgetTree.Ownership

/-!
# Walking through an arena

A walk meets widgets one after another, and between a widget and the next one
it meets what is attached to the first.  It follows the numbers that the arena
holds, so nothing about its form says that it ends or that it finds a widget
for every number.  `Walks` are the walks that do.

A walk of the roots meets every widget once.  The numbers of the widgets it
meets need not ascend, since a late widget can be attached to an early one.  In
an arena that holds a template they do, from every root on, because there no
widget reaches across another one.
-/

namespace WidgetTemplate

namespace WidgetTree

variable {tree : WidgetTree} {node : Node}

/-! ## Walks -/

/-- The walk of widgets given by their numbers, with the numbers that it meets. -/
inductive Walks (tree : WidgetTree) : List WidgetId → List WidgetId → Prop where
  | done : Walks tree [] []
  | meet {id : WidgetId} {widget : Widget} {rest below beside : List WidgetId}
      (found : tree.get? id = some widget)
      (inside : Walks tree widget.children below)
      (later : Walks tree rest beside) :
      Walks tree (id :: rest) (id :: (below ++ beside))

theorem Walks.unique {ids met other : List WidgetId}
    (first : tree.Walks ids met) (second : tree.Walks ids other) :
    met = other := by
  induction first generalizing other with
  | done =>
      cases second
      rfl
  | meet found inside later below beside =>
      cases second with
      | meet there within after =>
          rw [found] at there
          cases there
          rw [below within, beside after]

theorem Walks.iff_eq {ids met : List WidgetId} (walks : tree.Walks ids met)
    (other : List WidgetId) :
    tree.Walks ids other ↔ other = met := by
  constructor
  · intro also
    exact also.unique walks
  · rintro rfl
    exact walks

theorem walks_of_complete :
    (branches : List Branch) → Branch.AllComplete tree branches →
      tree.Walks (branches.map Branch.id)
        ((Branch.preorderAll branches).map Widget.id)
  | [], _ => by
      rw [Branch.preorderAll]
      exact .done
  | .node widget attached :: rest, ⟨⟨found, shown, complete⟩, later⟩ => by
      have inside := walks_of_complete attached complete
      have beside := walks_of_complete rest later
      rw [shown] at inside
      rw [Branch.preorderAll, Branch.preorder, List.map_append]
      exact .meet found inside beside

/--
Widgets of the arena can be walked, and the walk meets what is
in their branches.
-/
theorem WellFormed.walks_branches (formed : tree.WellFormed) {ids : List WidgetId}
    (present : ∀ id ∈ ids, id.index < tree.size) :
    tree.Walks ids
      ((Branch.preorderAll (tree.branches tree.size ids)).map Widget.id) := by
  have deep : ∀ id ∈ ids, id.index < tree.size ∧
    tree.size ≤ tree.size + id.index := by
    intro id member
    exact ⟨present id member, Nat.le_add_right _ _⟩
  rcases formed.branches_complete tree.size ids deep with ⟨shown, complete⟩
  have walks := walks_of_complete _ complete
  rwa [shown] at walks

theorem WellFormed.walks_forest (formed : tree.WellFormed) :
    tree.Walks tree.roots ((Branch.preorderAll tree.forest).map Widget.id) := by
  apply formed.walks_branches
  intro id member
  exact (formed.mem_roots_iff.mp member).1

/--
A walk goes upwards: nothing it meets comes before everything it started with.
-/
theorem Walks.exists_le (formed : tree.WellFormed) {ids met : List WidgetId}
    (walks : tree.Walks ids met) :
    ∀ other ∈ met, ∃ id ∈ ids, id.index ≤ other.index := by
  induction walks with
  | done =>
      intro other member
      cases member
  | meet found inside later below beside =>
      intro other member
      rcases List.mem_cons.mp member with rfl | member
      · exact ⟨other, List.mem_cons_self, Nat.le_refl _⟩
      rcases List.mem_append.mp member with within | after
      · rcases below other within with ⟨child, listed, least⟩
        have named := formed.parent?_of_mem found listed
        have before := (formed.parent?_before named).1
        exact ⟨_, List.mem_cons_self,
          Nat.le_of_lt (Nat.lt_of_lt_of_le before least)⟩
      · rcases beside other after with ⟨id, listed, least⟩
        exact ⟨id, List.mem_cons_of_mem _ listed, least⟩

/-! ## Walks that ascend -/

/--
No widget reaches across another one: what comes between a widget and its parent
is not attached to anything before the parent.
-/
def Uncrossed (tree : WidgetTree) : Prop :=
  ∀ first second parent above : WidgetId,
    tree.parent? second = some parent → tree.parent? first = some above →
      parent.index < first.index → first.index < second.index →
        parent.index ≤ above.index

/--
The second widget comes after the first, but is attached to something before it.
-/
structure Spans (tree : WidgetTree) (first second : WidgetId) : Prop where
  before : first.index < second.index
  attached : ∃ parent, tree.parent? second = some parent ∧
    parent.index < first.index

/--
If a widget reaches over another one, then it does so over what
is attached there.
-/
theorem Uncrossed.spans_child (uncrossed : tree.Uncrossed)
    (formed : tree.WellFormed) {id next child : WidgetId}
    (spans : tree.Spans id next) (named : tree.parent? child = some id) :
    tree.Spans child next := by
  rcases spans with ⟨before, parent, attached, outer⟩
  have below := (formed.parent?_before named).1
  have distinct : child ≠ next := by
    rintro rfl
    rw [named] at attached
    cases attached
    exact Nat.lt_irrefl _ outer
  have apart : child.index ≠ next.index := by
    intro same
    exact distinct (congrArg WidgetId.mk same)
  constructor
  · by_contra late
    have inner := uncrossed next child id parent named attached before (by omega)
    omega
  · exact ⟨parent, attached, Nat.lt_trans outer below⟩

/--
What reaches over the widgets of a walk comes after everything the walk meets.
-/
theorem Walks.lt_of_spans (formed : tree.WellFormed) (uncrossed : tree.Uncrossed)
    {ids met : List WidgetId} (walks : tree.Walks ids met) {next : WidgetId}
    (spans : ∀ id ∈ ids, tree.Spans id next) :
    ∀ other ∈ met, other.index < next.index := by
  induction walks with
  | done =>
      intro other member
      cases member
  | meet found inside later below beside =>
      intro other member
      rw [List.forall_mem_cons] at spans
      rcases List.mem_cons.mp member with rfl | member
      · exact spans.1.before
      rcases List.mem_append.mp member with within | after
      · refine below (fun child listed => ?_) other within
        exact uncrossed.spans_child formed spans.1
          (formed.parent?_of_mem found listed)
      · exact beside spans.2 other after

/-- The children of a widget reach over each other. -/
theorem WellFormed.spans_children (formed : tree.WellFormed) {id : WidgetId}
    {widget : Widget} (found : tree.get? id = some widget) :
    widget.children.Pairwise tree.Spans := by
  have ascending := formed.ascending_children id
  rw [children_of_found found] at ascending
  refine ascending.imp_of_mem fun {first second} listed also before => ?_
  have named := formed.parent?_of_mem found listed
  exact ⟨before, id, formed.parent?_of_mem found also,
    (formed.parent?_before named).1⟩

theorem Walks.ascending (formed : tree.WellFormed) (uncrossed : tree.Uncrossed)
    {ids met : List WidgetId} (walks : tree.Walks ids met)
    (spans : ids.Pairwise tree.Spans) :
    met.Pairwise fun first second => first.index < second.index := by
  induction walks with
  | done => exact List.Pairwise.nil
  | @meet id widget rest _ _ found inside later below beside =>
      rw [List.pairwise_cons] at spans
      have early : ∀ child ∈ widget.children, id.index < child.index := by
        intro child listed
        exact (formed.parent?_before (formed.parent?_of_mem found listed)).1
      rw [List.pairwise_cons, List.pairwise_append]
      refine ⟨?_, below (formed.spans_children found), beside spans.2, ?_⟩
      · intro other member
        rcases List.mem_append.mp member with within | after
        · rcases inside.exists_le formed other within with ⟨child, listed, least⟩
          exact Nat.lt_of_lt_of_le (early child listed) least
        · rcases later.exists_le formed other after with ⟨next, listed, least⟩
          exact Nat.lt_of_lt_of_le (spans.1 next listed).before least
      · -- Whatever comes beside the widget reaches over all that
        -- is attached to it.
        intro first within second after
        rcases later.exists_le formed second after with ⟨next, listed, least⟩
        have spanned : ∀ child ∈ widget.children, tree.Spans child next := by
          intro child member
          have named := formed.parent?_of_mem found member
          exact uncrossed.spans_child formed (spans.1 next listed) named
        have before := inside.lt_of_spans formed uncrossed spanned first within
        exact Nat.lt_of_lt_of_le before least

/-! ## Walks in a template -/

theorem Holds.uncrossed (holds : tree.Holds node) : tree.Uncrossed := by
  intro first second parent above attached named after before
  rcases holds.enclosing_of_parent attached with ⟨right, listed, around⟩
  rcases holds.enclosing_of_parent named with ⟨left, there, inside⟩
  rcases node.outline_nested _ _ _ left right there listed around
      (by rwa [Nat.zero_add]) before with
    ⟨closer, same, outer⟩
  rw [inside] at same
  cases same
  exact outer

/-- In an arena that holds a template, each root is walked in document order. -/
theorem Holds.exists_walks_root (holds : tree.Holds node) {root : WidgetId}
    (listed : root ∈ tree.roots) :
    ∃ met, tree.Walks [root] met ∧
      met.Pairwise fun first second => first.index < second.index := by
  have present : ∀ id ∈ [root], id.index < tree.size := by
    intro id member
    rw [List.mem_singleton.mp member]
    exact (holds.formed.mem_roots_iff.mp listed).1
  have walks := holds.formed.walks_branches present
  refine ⟨_, walks, ?_⟩
  exact walks.ascending holds.formed holds.uncrossed (List.pairwise_singleton _ _)

end WidgetTree

end WidgetTemplate
