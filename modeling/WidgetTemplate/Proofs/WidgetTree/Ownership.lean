import WidgetTemplate.Proofs.Node.Nesting
import WidgetTemplate.Proofs.WidgetTree.Ancestry
import WidgetTemplate.Proofs.WidgetTree.ElementTree

/-!
# Who owns a widget

A widget is owned by a toplevel if the way from it to its root ends at one.  In
an arena that holds a single template this can be read off the template: a
toplevel is attached to nothing, so the way from a widget upwards goes through
the elements around it and ends at the innermost toplevel among them.
-/

namespace WidgetTemplate

theorem Entry.Describes.isToplevel_iff {η : Type} {number : Nat → η}
    {outer : Option η} {entry : Entry} {origin : Origin η}
    (described : entry.Describes number outer origin) :
    entry.IsToplevel ↔ origin.element.category = .toplevel := by
  rw [Entry.IsToplevel, described.named]
  cases origin.element with
  | toplevel kind => simp [Element.category]
  | container kind => simp [Element.category]
  | leaf kind => simp [Element.category]

/--
What the whole is built under matters to elements only that are attached to it.
-/
theorem Entry.Describes.outermost {η : Type} {number : Nat → η} {outer : Option η}
    {entry : Entry} {origin : Origin η}
    (described : entry.Describes number outer origin)
    (free : entry.enclosing = none → outer = none ∨ entry.IsToplevel) :
    entry.Describes number none origin := by
  refine { described with parent_of_inner := fun inner => ?_ }
  rw [described.parent_of_inner inner]
  cases inside : entry.enclosing with
  | some above => rfl
  | none =>
      rcases free inside with rfl | toplevel
      · rfl
      · exact absurd (described.isToplevel_iff.mp toplevel) inner

namespace WidgetTree

variable {tree : WidgetTree} {node : Node}

/-! ## Arenas that hold one template -/

/--
The arena has one widget for each element of the template, with the number of
the element, and the outline says what it is built from.
-/
structure Holds (tree : WidgetTree) (node : Node) : Prop where
  formed : tree.WellFormed
  size : tree.size = node.tagCount
  described :
    ∀ index entry, node.outline[index]? = some entry →
      ∃ widget, tree.get? ⟨index⟩ = some widget ∧
        entry.Describes WidgetId.mk none widget.origin

theorem number_empty : numbering.number empty.size = WidgetId.mk := by
  funext index
  exact congrArg WidgetId.mk (Nat.zero_add index)

/--
A template that compiles into the empty arena is held by it, unless a current
parent is there and an outermost element to attach to it.
-/
theorem holds_of_compiled
    {context : Context WidgetId} {result : Compiled WidgetId}
    {state : BuildState WidgetTree WidgetId}
    (free : context.parent = none ∨ node.StartsToplevel)
    (compiled :
      Effect.runFrom (compile factory node)
          { toolkit := empty
            context } = (.ok result, state)) :
    state.toolkit.Holds node := by
  rcases origins_of_compiled compiled with ⟨added, grown, described⟩
  have reached := Reachable.empty.perform (.compile node context)
  rw [perform, compiled] at reached
  constructor
  · exact reached.wellFormed
  · rw [size_grown grown, ← described.length_eq, node.length_outline]
    exact Nat.zero_add _
  · intro index entry listed
    rcases exists_get?_described grown described listed with
      ⟨widget, found, describes⟩
    rw [number_empty] at found describes
    refine ⟨widget, found, describes.outermost fun outermost => ?_⟩
    refine free.imp id fun starts => ?_
    exact starts.isToplevel (List.mem_of_getElem? listed) outermost

namespace Holds

variable (holds : tree.Holds node)

include holds

/-- Every widget belongs to an element of the template. -/
theorem exists_entry {id : WidgetId} {widget : Widget}
    (found : tree.get? id = some widget) :
    ∃ entry, node.outline[id.index]? = some entry ∧
      entry.Describes WidgetId.mk none widget.origin := by
  have inside : id.index < node.outline.length := by
    rw [node.length_outline, ← holds.size]
    exact get?_lt found
  have listed := List.getElem?_eq_getElem inside
  rcases holds.described id.index _ listed with ⟨same, there, described⟩
  rw [found] at there
  cases there
  exact ⟨_, listed, described⟩

/-- The parent of a widget belongs to the innermost element around it. -/
theorem enclosing_of_parent {id parent : WidgetId}
    (named : tree.parent? id = some parent) :
    ∃ entry, node.outline[id.index]? = some entry ∧
      entry.enclosing = some parent.index := by
  rcases Option.bind_eq_some_iff.mp named with ⟨widget, found, under⟩
  rcases holds.exists_entry found with ⟨entry, listed, described⟩
  have inner : widget.element.category ≠ .toplevel := by
    intro toplevel
    rw [holds.formed.toplevel_parent id widget found toplevel] at under
    cases under
  have around := described.parent_of_inner inner
  rw [Option.or_none] at around
  rcases Option.map_eq_some_iff.mp (around.symm.trans under) with
    ⟨above, inside, rfl⟩
  exact ⟨entry, listed, inside⟩

/-! ## Owners in a template -/

/--
A toplevel owns itself, and whatever owns the element around it
owns an inner one.
-/
theorem toplevelOf?_element {index : Nat} {entry : Entry}
    (listed : node.outline[index]? = some entry) :
    entry.IsToplevel ∧ tree.toplevelOf? ⟨index⟩ = some ⟨index⟩ ∨
      ¬ entry.IsToplevel ∧
        tree.toplevelOf? ⟨index⟩ =
          entry.enclosing.bind fun above => tree.toplevelOf? ⟨above⟩ := by
  rcases holds.described index entry listed with ⟨widget, found, described⟩
  rw [holds.formed.toplevelOf?_eq found]
  by_cases toplevel : widget.element.category = .toplevel
  · refine Or.inl ⟨described.isToplevel_iff.mpr toplevel, if_pos toplevel⟩
  · refine Or.inr ⟨mt described.isToplevel_iff.mp toplevel, ?_⟩
    have under : widget.parent = (entry.enclosing.map WidgetId.mk).or none :=
      described.parent_of_inner toplevel
    rw [if_neg toplevel, under, Option.or_none, Option.bind_map]
    rfl

theorem toplevelAround_iff (index owner : Nat) :
    node.ToplevelAround index owner ↔ tree.toplevelOf? ⟨index⟩ = some ⟨owner⟩ := by
  constructor
  · intro around
    induction around with
    | itself listed toplevel =>
        rcases holds.toplevelOf?_element listed with ⟨-, owned⟩ | ⟨inner, -⟩
        · exact owned
        · exact absurd toplevel inner
    | enclosing listed inner inside around induction =>
        rcases holds.toplevelOf?_element listed with ⟨toplevel, -⟩ | ⟨-, owned⟩
        · exact absurd toplevel inner
        · rw [owned, inside]
          exact induction
  · intro owned
    induction index using Nat.strongRecOn with
    | ind index induction =>
        cases listed : node.outline[index]? with
        | none =>
            have absent : tree.get? ⟨index⟩ = none := by
              refine Array.getElem?_eq_none ?_
              have outside := List.getElem?_eq_none_iff.mp listed
              rwa [node.length_outline, ← holds.size] at outside
            rw [toplevelOf?_of_missing absent] at owned
            cases owned
        | some entry =>
            rcases holds.toplevelOf?_element listed with
              ⟨toplevel, itself⟩ | ⟨inner, above⟩
            · rw [itself] at owned
              cases owned
              exact .itself listed toplevel
            · rw [above] at owned
              rcases Option.bind_eq_some_iff.mp owned with
                ⟨around, inside, further⟩
              have before := Node.enclosing_before listed inside
              exact .enclosing listed inner inside
                (induction around before further)

end Holds

/--
The search for the owner of a widget ends, and it finds the owner.  Whatever was
done to an arena that was empty at first, and from whatever number the search
starts:

- The search ends, in one way only.
- There is one way upwards.  Something is found exactly if the widget exists and
  the last widget on the way, the root, is a toplevel, and then it is that one.
  It is among the roots, and no other widget on the way is a toplevel.

If a template compiles into the empty arena, each widget belongs to the element
with its number.  It is owned by the innermost toplevel around that element,
unless a current parent gets in between.  If the outermost elements are
toplevels, then there is no such parent, and every widget is owned.
-/
theorem toplevelOf?_finds_owner (operations : List Operation) (id : WidgetId) :
    let tree := empty.performAll operations
    (∀ owner, tree.Climbs id owner ↔ owner = tree.toplevelOf? id) ∧
      (∃ above, ∀ other, tree.Above id other ↔ other = above) ∧
      (∀ above, tree.Above id above → ∀ root,
        (tree.toplevelOf? id = some root ↔
          (∃ widget, tree.get? id = some widget) ∧
            (above ++ [id]).head? = some root ∧ tree.IsToplevel root) ∧
          (tree.toplevelOf? id = some root →
            root ∈ tree.roots ∧
              ∀ other ∈ above ++ [id], tree.IsToplevel other → other = root)) ∧
      ∀ document context result state,
        Effect.runFrom (compile factory document)
            { toolkit := empty
              context } = (.ok result, state) →
          (context.parent = none ∨ document.StartsToplevel →
            state.toolkit.Holds document ∧
              ∀ index owner, document.ToplevelAround index owner ↔
                state.toolkit.toplevelOf? ⟨index⟩ = some ⟨owner⟩) ∧
          (document.StartsToplevel → ∀ index < state.toolkit.size,
            ∃ owner, document.ToplevelAround index owner ∧
              state.toolkit.toplevelOf? ⟨index⟩ = some ⟨owner⟩) := by
  intro tree
  have formed := (Reachable.empty.performAll operations).wellFormed
  refine ⟨fun owner => formed.climbs_iff, ?_, ?_, ?_⟩
  · rcases formed.exists_above id with ⟨above, stands⟩
    refine ⟨above, fun other => ?_⟩
    constructor
    · intro also
      exact also.unique stands
    · rintro rfl
      exact stands
  · intro above stands root
    have found := formed.toplevelOf?_eq_some_iff stands root
    refine ⟨found, fun owned => ?_⟩
    rcases found.mp owned with ⟨-, outermost, toplevel⟩
    constructor
    · exact formed.mem_roots_of_isToplevel toplevel
    · intro other member also
      have same := formed.outermost_of_isToplevel stands other member also
      exact Option.some.inj (same.symm.trans outermost)
  · intro document context result state compiled
    constructor
    · intro free
      have holds := holds_of_compiled free compiled
      exact ⟨holds, holds.toplevelAround_iff⟩
    · intro starts index inside
      have holds := holds_of_compiled (.inr starts) compiled
      rw [holds.size, ← document.length_outline] at inside
      rcases starts.exists_toplevelAround (List.getElem?_eq_getElem inside) with
        ⟨owner, around⟩
      exact ⟨owner, around, (holds.toplevelAround_iff index owner).mp around⟩

/--
A button in a lone box has no owner, and a dialog owns itself.  In a main dialog
with a popup dialog in a box of it, each dialog owns its own button, though the
current parent from before does not exist.
-/
theorem toplevelOf?_finds_owner_in_popup :
    let operations : List Operation :=
      [.ask (.container .vbox none), .ask (.leaf .pushButton (some ⟨0⟩) "ok"),
        .ask (.toplevel .mainDialog)]
    let document : Node :=
      .tag "main_dialog" .empty
        (.sequence
          [.tag "vbox" .empty
              (.tag "popup_dialog" .empty
                (.tag "push_button" .empty (.text "ok"))),
            .tag "push_button" .empty (.text "close")])
    let run :=
      Effect.runFrom (compile factory document)
        { toolkit := empty
          context := Context.start (some ⟨9⟩) }
    (empty.performAll operations).Climbs ⟨1⟩ none ∧
      (empty.performAll operations).Climbs ⟨2⟩ (some ⟨2⟩) ∧
      (∀ owner, document.ToplevelAround 3 owner ↔ owner = 2) ∧
      (∀ owner, document.ToplevelAround 4 owner ↔ owner = 0) ∧
      run.2.toolkit.size = 5 := by
  intro operations document run
  have lost := toplevelOf?_finds_owner operations ⟨1⟩
  have owned := toplevelOf?_finds_owner operations ⟨2⟩
  have compiled : run = (.ok (.widget ⟨0⟩), run.2) := rfl
  have starts : document.StartsToplevel := by
    intro name attributes body member
    cases List.mem_singleton.mp member
    exact ⟨.mainDialog, rfl⟩
  rcases lost.2.2.2 document _ _ _ compiled with ⟨around, -⟩
  rcases around (.inr starts) with ⟨holds, found⟩
  refine ⟨(lost.1 none).mpr rfl, (owned.1 (some ⟨2⟩)).mpr rfl, ?_, ?_, holds.size⟩
  · intro owner
    have inner : run.2.toolkit.toplevelOf? ⟨3⟩ = some ⟨2⟩ := rfl
    rw [found, inner, Option.some.injEq, WidgetId.mk.injEq, eq_comm]
  · intro owner
    have outer : run.2.toolkit.toplevelOf? ⟨4⟩ = some ⟨0⟩ := rfl
    rw [found, outer, Option.some.injEq, WidgetId.mk.injEq, eq_comm]

end WidgetTree

end WidgetTemplate
