import WidgetTemplate.Proofs.WidgetTree.History

/-!
# A compile only appends

A compile makes requests until it ends or one is refused, and every request it
makes is under the current parent it was started with, under a widget that it
built itself, or under no parent at all.  So the widgets from before a compile
stay as they are, except that the current parent may get new children at the
end of its list.

Nothing is assumed about the current parent.  It may be a leaf, and it may be
a number that no widget has yet and that a widget of this compile gets.
-/

namespace WidgetTemplate

namespace WidgetTree

variable {tree : WidgetTree}

/--
A compile into an arena appends origins that stay under its current parent,
however it ends.
-/
theorem origins_compile (tree : WidgetTree)
    (context : Context WidgetId) (node : Node) :
    ∃ added,
      (tree.perform (.compile node context)).origins = tree.origins ++ added ∧
        ∀ origin ∈ added,
          origin.Within (numbering.number tree.size) context.parent := by
  rw [perform, toolkit_compile numbering]
  rcases origins_askAll_of_any
      (node.script (numbering.number tree.size) context.parent).requests tree with
    ⟨granted, begins, grown⟩
  refine ⟨granted.map Request.origin, grown, ?_⟩
  intro origin member
  rcases List.mem_map.mp member with ⟨request, asked, rfl⟩
  exact node.requests_script_within _ _ request (begins.subset asked)

/--
A compile only appends, whether it succeeds or fails.  The arena it leaves has
no fewer widgets than before.  A widget from before keeps its number, element,
parent and text; it keeps its children as well and only gets new ones after
them, all of them numbered from the size of the arena on and in ascending
order.  It gets none at all unless it is the current parent.
-/
theorem compile_only_appends (reachable : tree.Reachable)
    (context : Context WidgetId) (node : Node) :
    let after :=
      (Effect.runFrom (compile factory node)
        { toolkit := tree
          context }).2.toolkit
    tree.size ≤ after.size ∧
      ∀ id widget, tree.get? id = some widget →
        ∃ new : List WidgetId,
          after.get? id =
              some { widget with children := widget.children ++ new } ∧
            new.Pairwise (fun first second => first.index < second.index) ∧
            (∀ child ∈ new, tree.size ≤ child.index) ∧
            (context.parent ≠ some id → new = []) := by
  intro after
  rcases origins_compile tree context node with ⟨added, grown, within⟩
  have formed := reachable.wellFormed
  have formedAfter := (reachable.perform (.compile node context)).wellFormed
  constructor
  · exact size_grown grown ▸ Nat.le_add_right tree.size added.length
  · intro id widget found
    refine ⟨_, get?_grown grown formed formedAfter found, ?_, ?_, ?_⟩
    · exact (tree.ascending_idsAfter added.length).filter _
    · intro child member
      rcases List.mem_map.mp (List.mem_filter.mp member).1 with
        ⟨index, -, rfl⟩
      exact Nat.le_add_right tree.size index
    · exact filter_idsAfter_of_within grown within (get?_lt found)

/--
A button goes under a box from before, and the compile fails after it.  Under
a number that no widget has yet, the box gets nothing.
-/
theorem compile_only_appends_before_fault :
    let tree := ((Request.container .vbox none).ask factory empty).2
    let node : Node :=
      .sequence
        [.tag "main_dialog" .empty (.sequence []),
          .tag "push_button" .empty (.text "ok"),
          .tag "slider" .empty (.sequence [])]
    let after (parent : WidgetId) :=
      (Effect.runFrom (compile factory node)
        { toolkit := tree
          context := Context.start (some parent) }).2.toolkit
    let box : Widget :=
      { id := ⟨0⟩
        element := .container .vbox
        parent := none
        children := []
        text := none }
    tree.get? ⟨0⟩ = some box ∧
      tree.size ≤ (after ⟨0⟩).size ∧
      (after ⟨0⟩).get? ⟨0⟩ = some { box with children := [⟨2⟩] } ∧
      (after ⟨1⟩).get? ⟨0⟩ = some box ∧
      (after ⟨1⟩).children ⟨1⟩ = [⟨2⟩] := by
  intro tree node after box
  have reachable : tree.Reachable := Reachable.ask _ Reachable.empty
  have found : tree.get? ⟨0⟩ = some box := rfl
  have inside := compile_only_appends reachable (Context.start (some ⟨0⟩)) node
  have outside := compile_only_appends reachable (Context.start (some ⟨1⟩)) node
  rcases outside.2 ⟨0⟩ box found with ⟨new, kept, -, -, none_⟩
  have other : (Context.start (some (⟨1⟩ : WidgetId))).parent ≠ some ⟨0⟩ := by
    intro same
    cases same
  rw [none_ other] at kept
  exact ⟨found, inside.1, rfl, kept, rfl⟩

end WidgetTree

end WidgetTemplate
