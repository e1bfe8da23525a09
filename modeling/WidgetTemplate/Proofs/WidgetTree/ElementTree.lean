import WidgetTemplate.Proofs.Compile.Outline
import WidgetTemplate.Proofs.WidgetTree.Growth

/-!
# The tree that a compile builds

A successful compile into an arena builds the elements of the template and
nothing else.  The new widgets stand in the order of the outline, and what
each of them is built from can be read off its entry.  The widgets from before
stay as they are, except that the current parent gets the outermost ones of
the new widgets as its last children.
-/

namespace WidgetTemplate

namespace WidgetTree

variable {tree after : WidgetTree} {node : Node} {outer : Option WidgetId}

/--
The requests of a template without fault, if they are granted, append the
origins that the outline describes.
-/
theorem origins_described
    {ids : List WidgetId}
    (faultless : node.firstFault? = none)
    (granted :
      (Request.askAll factory
          (node.script (numbering.number tree.size) outer).requests).runFrom
        tree = (.ok ids, after)) :
    ∃ added, after.origins = tree.origins ++ added ∧
      List.Forall₂
        (Entry.Describes (numbering.number tree.size) outer)
        node.outline added := by
  refine ⟨_, origins_askAll granted, ?_⟩
  rw [List.forall₂_map_right_iff]
  exact Node.requests_describe _ outer faultless

section Described

variable {added : List (Origin WidgetId)}
variable (grown : after.origins = tree.origins ++ added)
variable
  (described :
    List.Forall₂ (Entry.Describes (numbering.number tree.size) outer)
      node.outline added)

include grown described

/-- Every entry of the outline has a widget that it describes. -/
theorem exists_get?_described {index : Nat} {entry : Entry}
    (listed : node.outline[index]? = some entry) :
    ∃ widget, after.get? (numbering.number tree.size index) = some widget ∧
      entry.Describes (numbering.number tree.size) outer widget.origin := by
  rcases List.getElem?_eq_some_iff.mp listed with ⟨inside, rfl⟩
  have new : index < added.length := described.length_eq ▸ inside
  rcases exists_get?_grown grown (List.getElem?_eq_getElem new) with
    ⟨widget, found, same⟩
  refine ⟨widget, found, ?_⟩
  rw [same]
  exact described.get inside new

/-- No widget from before gets a new child, except the parent of the whole. -/
theorem filter_idsAfter_described
    {id : WidgetId} (old : id.index < tree.size) (other : outer ≠ some id) :
    ((tree.idsAfter node.tagCount).filter
      fun new => after.parent? new = some id) = [] := by
  have within :
      ∀ origin ∈ added, origin.Within (numbering.number tree.size) outer := by
    intro origin member
    rcases List.mem_iff_getElem.mp member with ⟨index, inside, rfl⟩
    exact (described.get (described.length_eq ▸ inside) inside).within
  rw [← node.length_outline, described.length_eq]
  exact filter_idsAfter_of_within grown within old other

end Described

/-- A successful compile appends the origins that the outline describes. -/
theorem origins_of_compiled
    {context : Context WidgetId}
    {result : Compiled WidgetId}
    {state : BuildState WidgetTree WidgetId}
    (compiled :
      Effect.runFrom (compile factory node)
          { toolkit := tree
            context } = (.ok result, state)) :
    ∃ added, state.toolkit.origins = tree.origins ++ added ∧
      List.Forall₂
        (Entry.Describes (numbering.number tree.size) context.parent)
        node.outline added := by
  rcases compile_ok compiled with ⟨pieces, constructed, -⟩
  rcases construct_ok numbering constructed with ⟨-, faultless, ids, granted⟩
  exact origins_described faultless granted

/--
What a successful compile builds.  Let an arena be reachable, and let a
template compile into it under some current parent.  Number the elements of
the template in document order, from the size of the arena on.

- The arena grows by one widget for each element of the template.
- The widget with the number of an element has the element, parent and text
  that the entry of the element in the outline says.
- The children of a widget are the widgets that name it as their parent,
  smallest number first.
- A widget from before is as it was, except that the current parent has got
  those of the new widgets that name it as their parent, at the end and in
  document order.
- The roots are the widgets without a parent, smallest number first: the ones
  from before, and then the new ones.
- The result is what the items of the template come down to.
-/
theorem compile_builds_outline
    {context : Context WidgetId}
    {result : Compiled WidgetId}
    {state : BuildState WidgetTree WidgetId}
    (reachable : tree.Reachable)
    (compiled :
      Effect.runFrom (compile factory node)
          { toolkit := tree
            context } = (.ok result, state)) :
    let built := state.toolkit
    let number (index : Nat) : WidgetId := ⟨tree.size + index⟩
    let added := tree.idsAfter node.tagCount
    built.size = tree.size + node.tagCount ∧
      (∀ index entry, node.outline[index]? = some entry →
        ∃ widget, built.get? (number index) = some widget ∧
          widget.id = number index ∧
          entry.Describes number context.parent widget.origin) ∧
      (∀ id widget, built.get? id = some widget →
        widget.children = built.attachedTo id) ∧
      (∀ id widget, tree.get? id = some widget →
        built.get? id =
          some
            { widget with
              children :=
                widget.children ++
                  if context.parent = some id then
                    added.filter fun new => built.parent? new = some id
                  else
                    [] }) ∧
      (built.roots = built.ids.filter fun id => built.parent? id = none) ∧
      (built.roots =
        tree.roots ++ added.filter fun id => built.parent? id = none) ∧
      result = Compiled.ofPieces (Item.piecesFrom number 0 node.items) := by
  intro built number added
  rcases compile_ok compiled with ⟨pieces, constructed, rfl⟩
  rcases construct_ok numbering constructed with ⟨rfl, faultless, ids, granted⟩
  rcases origins_described faultless granted with ⟨origins, grown, described⟩
  have formed := reachable.wellFormed
  have formedAfter := (reachable.askAll granted).wellFormed
  have count : origins.length = node.tagCount :=
    described.length_eq.symm.trans node.length_outline
  refine ⟨?_, ?_, ?_, ?_, ?_, ?_, rfl⟩
  · exact count ▸ size_grown grown
  · intro index entry listed
    rcases exists_get?_described grown described listed with
      ⟨widget, found, describes⟩
    exact ⟨widget, found, formedAfter.numbered _ widget found, describes⟩
  · exact formedAfter.children_eq
  · intro id widget found
    have kept := get?_grown grown formed formedAfter found
    rw [count] at kept
    split
    · exact kept
    · rename_i other
      rw [filter_idsAfter_described grown described (get?_lt found) other] at kept
      exact kept
  · exact formedAfter.roots_eq
  · have roots := roots_grown grown formed formedAfter
    rw [count] at roots
    exact roots

/-- A button, and a box around a dialog, in an arena that holds one box. -/
theorem compile_builds_outline_in_box :
    let tree := ((Request.container .vbox none).ask factory empty).2
    let node : Node :=
      .sequence
        [.tag "push_button" .empty (.text "ok"),
          .sequence
            [.tag "hbox" .empty (.tag "popup_dialog" .empty (.sequence []))]]
    let run :=
      Effect.runFrom (compile factory node)
        { toolkit := tree
          context := Context.start (some ⟨0⟩) }
    tree.Reachable ∧
      run.1 = .ok (.sequence [.widget ⟨1⟩, .widget ⟨2⟩]) ∧
      run.2.toolkit.size = 4 ∧
      run.2.toolkit.get? ⟨0⟩ =
        some
          { id := ⟨0⟩
            element := .container .vbox
            parent := none
            children := [⟨1⟩, ⟨2⟩]
            text := none } ∧
      run.2.toolkit.roots = [⟨0⟩, ⟨3⟩] := by
  intro tree node run
  have reachable : tree.Reachable := Reachable.ask _ Reachable.empty
  have compiled :
      run = (.ok (.sequence [.widget ⟨1⟩, .widget ⟨2⟩]), run.2) := rfl
  rcases compile_builds_outline reachable compiled with
    ⟨size, -, -, kept, -, roots, -⟩
  exact ⟨reachable, congrArg Prod.fst compiled, size, kept ⟨0⟩ _ rfl, roots⟩

end WidgetTree

end WidgetTemplate
