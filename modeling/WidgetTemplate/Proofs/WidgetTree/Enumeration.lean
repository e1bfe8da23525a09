import WidgetTemplate.Proofs.WidgetTree.History
import WidgetTemplate.WidgetTree.Forest

/-!
# The forest of an arena lists every widget once

The forest is built down to a fixed depth, and a widget could in principle be
met on several ways or on none.  Under the arena invariant neither happens:
numbers grow from a widget to the widgets attached to it, so the depth is
enough for all of them, and everything in the forest is a `Complete` branch.

In complete branches a widget is met once as a first widget, and once more for
every time its parent is met.  Counting along the parents, from smaller to
larger numbers, gives `WellFormed.preorderAll_forest_perm`: a walk of the
forest meets exactly the widgets of the arena, each of them once.
-/

namespace WidgetTemplate

namespace Branch

def id (branch : Branch) : WidgetId :=
  branch.widget.id

mutual

/--
The branch holds a widget of the arena and below it, in order, the branches of
all widgets attached to it.
-/
def Complete (tree : WidgetTree) : Branch → Prop
  | .node widget attached =>
      tree.get? widget.id = some widget ∧
        attached.map Branch.id = widget.children ∧
        AllComplete tree attached

def AllComplete (tree : WidgetTree) : List Branch → Prop
  | [] => True
  | branch :: rest => branch.Complete tree ∧ AllComplete tree rest

end

end Branch

namespace WidgetTree

variable {tree : WidgetTree}

/-! ## The depth of the forest is enough -/

/--
Widgets have complete branches down to a depth that reaches the last widget of
the arena from each of them.
-/
theorem WellFormed.branches_complete (formed : tree.WellFormed) :
    (depth : Nat) → (ids : List WidgetId) →
      (∀ id ∈ ids, id.index < tree.size ∧ tree.size ≤ depth + id.index) →
        (tree.branches depth ids).map Branch.id = ids ∧
          Branch.AllComplete tree (tree.branches depth ids)
  | 0, ids, deep => by
      have nothing : ids = [] := by
        refine List.eq_nil_iff_forall_not_mem.mpr fun id member => ?_
        have := deep id member
        omega
      subst nothing
      exact ⟨rfl, trivial⟩
  | depth + 1, [], deep => ⟨rfl, trivial⟩
  | depth + 1, id :: ids, deep => by
      rcases exists_get? (deep id List.mem_cons_self).1 with ⟨widget, found⟩
      have numbered := formed.numbered id widget found
      have listed := formed.children_eq id widget found
      have below :
          ∀ child ∈ widget.children,
            child.index < tree.size ∧ tree.size ≤ depth + child.index := by
        intro child member
        rw [listed, attachedTo, List.mem_filter, mem_ids,
          decide_eq_true_eq] at member
        rcases Option.bind_eq_some_iff.mp member.2 with ⟨lower, there, named⟩
        have later := (formed.parent_before child lower id there named).1
        have reach := (deep id List.mem_cons_self).2
        exact ⟨member.1, by omega⟩
      rcases formed.branches_complete depth widget.children below with
        ⟨shown, complete⟩
      rcases formed.branches_complete (depth + 1) ids
          (fun other member => deep other (List.mem_cons_of_mem _ member)) with
        ⟨shownLater, completeLater⟩
      have split :
          tree.branches (depth + 1) (id :: ids) =
            .node widget (tree.branches depth widget.children) ::
              tree.branches (depth + 1) ids := by
        simp [branches, found]
      rw [split]
      refine ⟨?_, ⟨numbered.symm ▸ found, shown, complete⟩, completeLater⟩
      rw [List.map_cons, shownLater]
      exact congrArg (· :: ids) numbered

theorem WellFormed.mem_roots_iff (formed : tree.WellFormed) {id : WidgetId} :
    id ∈ tree.roots ↔ id.index < tree.size ∧ tree.parent? id = none := by
  rw [formed.roots_eq, List.mem_filter, mem_ids, decide_eq_true_eq]

theorem WellFormed.forest_complete (formed : tree.WellFormed) :
    tree.forest.map Branch.id = tree.roots ∧
      Branch.AllComplete tree tree.forest := by
  refine formed.branches_complete tree.size tree.roots fun id member => ?_
  exact ⟨(formed.mem_roots_iff.mp member).1, Nat.le_add_right _ _⟩

/-! ## Counting widgets along their parents -/

theorem nodup_ids (tree : WidgetTree) : tree.ids.Nodup := by
  refine tree.ascending_ids.imp ?_
  rintro first second before rfl
  exact Nat.lt_irrefl _ before

theorem WellFormed.nodup_roots (formed : tree.WellFormed) : tree.roots.Nodup := by
  rw [formed.roots_eq]
  exact tree.nodup_ids.filter _

theorem WellFormed.count_children (formed : tree.WellFormed)
    {id : WidgetId} {widget : Widget} (found : tree.get? id = some widget)
    (child : WidgetId) :
    widget.children.count child =
      if tree.parent? child = some id then 1 else 0 := by
  have distinct : widget.children.Nodup := by
    rw [formed.children_eq id widget found]
    exact tree.nodup_ids.filter _
  rw [distinct.count, ← children_of_found found]
  simp only [formed.mem_children_iff]

/-- How often a widget is met in branches. -/
def meetings (branches : List Branch) (id : WidgetId) : Nat :=
  ((Branch.preorderAll branches).map Widget.id).count id

/-- How often the parent of a widget, if it has one, is met in branches. -/
def parentMeetings (tree : WidgetTree) (branches : List Branch)
    (id : WidgetId) : Nat :=
  match tree.parent? id with
  | none => 0
  | some parent => meetings branches parent

theorem meetings_cons (widget : Widget) (attached rest : List Branch)
    (id : WidgetId) :
    meetings (.node widget attached :: rest) id =
      (if widget.id = id then 1 else 0) + meetings attached id +
        meetings rest id := by
  simp only [meetings, Branch.preorderAll, Branch.preorder, List.map_append,
    List.map_cons, List.count_append, List.count_cons, beq_iff_eq]
  omega

/--
In complete branches a widget is met as often as it comes first in one of
them, and once more for every meeting with its parent.
-/
theorem WellFormed.meetings_eq (formed : tree.WellFormed) (id : WidgetId) :
    (branches : List Branch) → Branch.AllComplete tree branches →
      meetings branches id =
        (branches.map Branch.id).count id + parentMeetings tree branches id
  | [], _ => by
      simp only [parentMeetings]
      cases tree.parent? id <;> rfl
  | .node widget attached :: rest, ⟨⟨found, shown, complete⟩, later⟩ => by
      have inside := formed.meetings_eq id attached complete
      have beside := formed.meetings_eq id rest later
      rw [shown, formed.count_children found] at inside
      rw [meetings_cons, inside, beside, List.map_cons, List.count_cons]
      simp only [parentMeetings]
      cases tree.parent? id with
      | none => simp [Branch.id, Branch.widget]; omega
      | some parent =>
          simp only [meetings_cons, Option.some.injEq, Branch.id,
            Branch.widget, beq_iff_eq, eq_comm (a := parent)]
          omega

/-- A walk of the forest meets a widget once if it is in the arena. -/
theorem WellFormed.meetings_forest (formed : tree.WellFormed) (id : WidgetId) :
    meetings tree.forest id = if id.index < tree.size then 1 else 0 := by
  rcases formed.forest_complete with ⟨shown, complete⟩
  -- Parents have smaller numbers than the widgets attached to them.
  induction index : id.index using Nat.strongRecOn generalizing id with
  | ind index induction =>
      subst index
      rw [formed.meetings_eq id tree.forest complete, shown,
        formed.nodup_roots.count]
      simp only [formed.mem_roots_iff, parentMeetings]
      cases named : tree.parent? id with
      | none => simp
      | some parent =>
          rcases Option.bind_eq_some_iff.mp named with ⟨widget, found, above⟩
          rcases formed.parent_before id widget parent found above with
            ⟨before, accepted⟩
          have present := accepted.below parent rfl
          simp [induction parent.index before parent rfl, present, get?_lt found]

/-- A walk of the forest meets exactly the widgets of the arena, each once. -/
theorem WellFormed.preorderAll_forest_perm (formed : tree.WellFormed) :
    ((Branch.preorderAll tree.forest).map Widget.id).Perm tree.ids := by
  rw [List.perm_iff_count]
  intro id
  have once := formed.meetings_forest id
  rw [meetings] at once
  rw [once, tree.nodup_ids.count]
  simp only [mem_ids]

end WidgetTree

/-! ## Branches and their places -/

namespace Branch

/-- The branches inside branches, each with the branch it is attached to. -/
def placed (above : Option Branch) : List Branch → List (Option Branch × Branch)
  | [] => []
  | .node widget attached :: rest =>
      (above, .node widget attached) ::
        (placed (some (.node widget attached)) attached ++ placed above rest)

theorem Complete.get?_id {tree : WidgetTree} :
    {branch : Branch} → branch.Complete tree →
      tree.get? branch.id = some branch.widget
  | .node _ _, ⟨found, _, _⟩ => found

theorem map_widget_placed (above : Option Branch) :
    (branches : List Branch) →
      (placed above branches).map (·.2.widget) = preorderAll branches
  | [] => by rw [placed, preorderAll, List.map_nil]
  | .node widget attached :: rest => by
      rw [placed, List.map_cons, List.map_append, map_widget_placed _ attached,
        map_widget_placed _ rest, preorderAll, preorder]
      rfl

end Branch

namespace WidgetTree

variable {tree : WidgetTree}

/--
Branches that are complete and stand where their widgets belong stay so inside.
-/
theorem WellFormed.placed_complete (formed : tree.WellFormed) :
    (above : Option Branch) → (branches : List Branch) →
      Branch.AllComplete tree branches →
      (∀ branch ∈ branches, tree.parent? branch.id = above.map Branch.id) →
        ∀ place ∈ Branch.placed above branches,
          place.2.Complete tree ∧ tree.parent? place.2.id = place.1.map Branch.id
  | _, [], _, _, place, member => by simp [Branch.placed] at member
  | above, .node widget attached :: rest, ⟨complete, later⟩, belongs,
    place, member => by
      have ⟨found, shown, inner⟩ := complete
      rw [Branch.placed] at member
      rcases List.mem_cons.mp member with rfl | member
      · exact ⟨complete, belongs _ List.mem_cons_self⟩
      rcases List.mem_append.mp member with inside | beside
      · refine formed.placed_complete _ attached inner
          (fun branch listed => ?_) place inside
        have child : branch.id ∈ widget.children := by
          rw [← shown]
          exact List.mem_map_of_mem listed
        exact formed.parent?_of_mem found child
      · exact formed.placed_complete above rest later
          (fun branch listed =>
            belongs branch (List.mem_cons_of_mem _ listed)) place beside

theorem WellFormed.forest_placed (formed : tree.WellFormed) :
    ∀ place ∈ Branch.placed none tree.forest,
      place.2.Complete tree ∧ tree.parent? place.2.id = place.1.map Branch.id := by
  have ⟨shown, complete⟩ := formed.forest_complete
  refine formed.placed_complete none tree.forest complete fun branch listed => ?_
  have root : branch.id ∈ tree.roots := by
    rw [← shown]
    exact List.mem_map_of_mem listed
  exact (formed.mem_roots_iff.mp root).2

/-- Every widget has exactly one place in the forest. -/
theorem WellFormed.placed_ids_perm (formed : tree.WellFormed) :
    ((Branch.placed none tree.forest).map (·.2.id)).Perm tree.ids := by
  have walked := formed.preorderAll_forest_perm
  rwa [← Branch.map_widget_placed none, List.map_map] at walked

end WidgetTree

end WidgetTemplate
