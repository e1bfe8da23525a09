import WidgetTemplate.Proofs.Format.Markup
import WidgetTemplate.Proofs.Format.Objects
import WidgetTemplate.Proofs.Format.Rows
import WidgetTemplate.Proofs.Text.Lines
import WidgetTemplate.Proofs.WidgetTree.Traversal

/-!
# All formats write widgets in one order

Each format writes a widget before what is attached to it.  In a drawing that is
the order of the rows, in markup the order of the opening tags, and in a value
the order in which the objects begin.  All three orders are that of the walk
from the roots.
-/

namespace WidgetTemplate

namespace Markup

variable {tree : WidgetTree}

/-! ## Opening tags -/

/--
The opening tags in markup, each with what stands between it and the next tag.
-/
def openings : List Char → List (Element × List Char)
  | [] => []
  | char :: rest =>
      if char = '<' then
        match Element.named? (String.ofList (rest.takeWhile (· ≠ '>'))) with
        | some element =>
            (element, (rest.dropWhile (· ≠ '>')).tail.takeWhile (· ≠ '<')) ::
              openings rest
        | none => openings rest
      else
        openings rest

theorem openings_plain {text : List Char} (plain : '<' ∉ text)
    (behind : List Char) :
    openings (text ++ behind) = openings behind := by
  induction text with
  | nil => rfl
  | cons char rest induction =>
      rw [List.mem_cons, not_or] at plain
      rw [List.cons_append, openings, if_neg (Ne.symm plain.1), induction plain.2]

theorem openings_opening (element : Element) (behind : List Char) :
    openings ((opening element).toList ++ behind) =
      (element, behind.takeWhile (· ≠ '<')) :: openings behind := by
  have ends : '>' ∉ element.name.toList := element.notMem_name (by decide)
  rcases Text.cut_at ends behind with ⟨name, rest⟩
  have chars :
      (opening element).toList ++ behind =
        '<' :: (element.name.toList ++ '>' :: behind) := by
    simp [opening]
  have plain : '<' ∉ element.name.toList ++ ['>'] := by
    simp [element.notMem_name]
  have passed := openings_plain plain behind
  rw [List.append_assoc, List.singleton_append] at passed
  rw [chars, openings, if_pos rfl, name, rest, String.ofList_toList,
    Element.named?_name, passed, List.tail_cons]

theorem openings_closing (element : Element) (behind : List Char) :
    openings ((closing element).toList ++ behind) = openings behind := by
  have ends : '>' ∉ '/' :: element.name.toList := by
    simp [element.notMem_name]
  have name := (Text.cut_at ends behind).1
  have chars :
      (closing element).toList ++ behind =
        '<' :: ('/' :: element.name.toList ++ '>' :: behind) := by
    simp [closing]
  have plain : '<' ∉ '/' :: element.name.toList ++ ['>'] := by
    simp [element.notMem_name]
  have passed := openings_plain plain behind
  rw [List.append_assoc, List.singleton_append] at passed
  have unnamed :
      Element.named? (String.ofList ('/' :: element.name.toList)) = none := by
    rw [Option.eq_none_iff_forall_ne_some]
    intro other named
    have starts := Reading.head?_name_ne other
    rw [Element.named?_eq_some_iff.mp named, String.toList_ofList] at starts
    exact starts rfl
  rw [chars, openings, if_pos rfl, name, unnamed, passed]

/-- The tag opens the widget, and the text of the widget stands behind it. -/
def Opens (tree : WidgetTree) (id : WidgetId) (tag : Element × List Char) : Prop :=
  ∃ widget, tree.get? id = some widget ∧ tag.1 = widget.element ∧
    ∀ text, widget.text = some text → tag.2 = (Text.withEntities text).toList

/--
The opening tags of a text, whatever it stands in front of, are
those of widgets.
-/
def OpensAll (tree : WidgetTree) (ids : List WidgetId) (text : String) : Prop :=
  ∀ behind, ∃ tags, openings (text.toList ++ behind) = tags ++ openings behind ∧
    List.Forall₂ (Opens tree) ids tags

theorem OpensAll.plain {text : String} (plain : '<' ∉ text.toList) :
    OpensAll tree [] text := by
  intro behind
  exact ⟨[], openings_plain plain behind, .nil⟩

theorem OpensAll.closing (element : Element) :
    OpensAll tree [] (closing element) := by
  intro behind
  exact ⟨[], openings_closing element behind, .nil⟩

theorem OpensAll.append {ids more : List WidgetId} {text rest : String}
    (first : OpensAll tree ids text) (second : OpensAll tree more rest) :
    OpensAll tree (ids ++ more) (text ++ rest) := by
  intro behind
  rcases second behind with ⟨later, written, follow⟩
  rcases first (rest.toList ++ behind) with ⟨tags, before, opened⟩
  refine ⟨tags ++ later, ?_, List.rel_append opened follow⟩
  rw [String.toList_append, List.append_assoc, before, written, List.append_assoc]

theorem OpensAll.indentation (depth : Nat) :
    OpensAll tree [] (indentation depth) := by
  apply OpensAll.plain
  simp [Markup.indentation]

theorem OpensAll.newline : OpensAll tree [] "\n" :=
  OpensAll.plain (by decide)

/--
A widget with nothing attached to it is opened, and its text stands in its tags.
-/
theorem OpensAll.single {widget : Widget}
    (found : tree.get? widget.id = some widget) :
    OpensAll tree [widget.id]
      (opening widget.element ++ content widget ++
        Markup.closing widget.element) := by
  intro behind
  have plain : '<' ∉ (content widget).toList := by
    rw [content]
    split
    · exact List.not_mem_nil
    · intro member
      exact (Text.mem_withEntities member).1 rfl
  have chars :
      (Markup.closing widget.element).toList ++ behind =
        '<' :: ('/' :: (widget.element.name.toList ++ '>' :: behind)) := by
    simp [Markup.closing]
  have between :
      ((content widget).toList ++
          ((Markup.closing widget.element).toList ++ behind)).takeWhile (· ≠ '<') =
        (content widget).toList := by
    rw [chars, (Text.cut_at plain _).1]
  refine ⟨[(widget.element, (content widget).toList)], ?_, .cons ?_ .nil⟩
  · rw [String.toList_append, String.toList_append, List.append_assoc,
      List.append_assoc, openings_opening, between, openings_plain plain,
      openings_closing]
    rfl
  · refine ⟨widget, found, rfl, ?_⟩
    intro text written
    rw [content, written]

theorem OpensAll.opening {widget : Widget}
    (found : tree.get? widget.id = some widget) (silent : widget.text = none) :
    OpensAll tree [widget.id] (opening widget.element) := by
  intro behind
  refine ⟨_, openings_opening widget.element behind,
    .cons ⟨widget, found, rfl, ?_⟩ .nil⟩
  intro text written
  rw [silent] at written
  cases written

/-- The lines of branches open the widgets of the branches, in order. -/
theorem opensAll_lines (formed : tree.WellFormed) :
    (branches : List Branch) → Branch.AllComplete tree branches → (depth : Nat) →
      OpensAll tree ((Branch.preorderAll branches).map Widget.id)
        (Text.ofLines (lines depth branches))
  | [], _, depth => by
      rw [lines, Branch.preorderAll]
      exact OpensAll.plain (by decide)
  | .node widget [] :: rest, ⟨complete, later⟩, depth => by
      have beside := opensAll_lines formed rest later depth
      have line := (OpensAll.indentation depth).append (OpensAll.single complete.1)
      rw [lines_single, Text.ofLines_cons]
      exact (line.append OpensAll.newline).append beside
  | .node widget (first :: more) :: rest, ⟨complete, later⟩, depth => by
      rcases inner_of_attached formed complete with ⟨-, silent⟩
      have inside := opensAll_lines formed (first :: more) complete.2.2 (depth + 1)
      have beside := opensAll_lines formed rest later depth
      have line :=
        (OpensAll.indentation depth).append (OpensAll.opening complete.1 silent)
      have last : OpensAll tree [] (indentation depth ++ closing widget.element) :=
        (OpensAll.indentation depth).append (OpensAll.closing widget.element)
      have nothing : content widget = "" := by
        rw [content, silent]
      rw [lines_attached depth widget (List.cons_ne_nil first more), nothing,
        String.append_empty, Text.ofLines_append, Text.ofLines_cons,
        Text.ofLines_cons, Branch.preorderAll, Branch.preorder, List.map_append]
      exact
        ((line.append OpensAll.newline).append inside).append
          ((last.append OpensAll.newline).append beside)

theorem openings_document (formed : tree.WellFormed) :
    List.Forall₂ (Opens tree) ((Branch.preorderAll tree.forest).map Widget.id)
      (openings (document tree).toList) := by
  rcases opensAll_lines formed tree.forest formed.forest_complete.2 0 [] with
    ⟨tags, written, opened⟩
  rw [List.append_nil, openings, List.append_nil] at written
  rw [document]
  exact written ▸ opened

end Markup

namespace Objects

theorem map_sightings_value (tree : WidgetTree) :
    ((value tree).sightings none).map (fun sighting => idOf? sighting.object) =
      ((Branch.preorderAll tree.forest).map Widget.id).map some := by
  rw [sightings_value, ← Branch.map_widget_placed none, List.map_map, List.map_map,
    List.map_map]
  refine List.map_congr_left fun place _ => ?_
  exact idOf?_ofBranch place.2

end Objects

/-! ## The walk of all formats -/

/--
Whatever was done to an arena that was empty at first, the walk from its roots
ends, in one way only, finds a widget for every number, and meets every widget
once.  The rows of a drawing, the opening tags of markup and the objects of a
value come in the order of this walk.

If a template compiles into the empty arena under no parent, then the walk from
each of the roots meets smaller numbers before larger ones.
-/
theorem formats_share_walk (operations : List WidgetTree.Operation) (width : Nat) :
    let tree := WidgetTree.empty.performAll operations
    (∃ walk,
        (∀ other, tree.Walks tree.roots other ↔ other = walk) ∧
          walk.Perm tree.ids ∧
          List.Forall₂ (Treeviz.Draws tree width) walk
            (Text.linesOf (Treeviz.draw width tree)) ∧
          List.Forall₂ (Markup.Opens tree) walk
            (Markup.openings (Markup.document tree).toList) ∧
          ((Objects.value tree).sightings none).map
              (fun sighting => Objects.idOf? sighting.object) =
            walk.map some) ∧
      ∀ node context result state,
        context.parent = none →
          Effect.runFrom (compile WidgetTree.factory node)
              { toolkit := WidgetTree.empty
                context } = (.ok result, state) →
            ∀ root ∈ state.toolkit.roots, ∃ met,
              (∀ other, state.toolkit.Walks [root] other ↔ other = met) ∧
                met.Pairwise fun first second => first.index < second.index := by
  intro tree
  have formed := (WidgetTree.Reachable.empty.performAll operations).wellFormed
  constructor
  · refine ⟨_, formed.walks_forest.iff_eq, formed.preorderAll_forest_perm, ?_,
      Markup.openings_document formed, Objects.map_sightings_value tree⟩
    have rows := Text.linesOf_ofLines (Treeviz.newline_not_mem_lines formed width)
    have drawing :
        Treeviz.draw width tree = Text.ofLines (Treeviz.lines width tree) := rfl
    rw [drawing, rows]
    exact Treeviz.lines_drawn formed width
  · intro node context result state free compiled root listed
    have holds := WidgetTree.holds_of_compiled (.inl free) compiled
    rcases holds.exists_walks_root listed with ⟨met, walks, ascending⟩
    exact ⟨met, walks.iff_eq, ascending⟩

/--
A button that was built last is met between two boxes.  In a dialog with another
one in a box of it, the walk from the outer dialog leaves out the inner one.
-/
theorem formats_share_walk_out_of_order :
    let operations : List WidgetTree.Operation :=
      [.ask (.container .vbox none), .ask (.container .hbox none),
        .ask (.leaf .pushButton (some ⟨0⟩) "ok")]
    let tree := WidgetTree.empty.performAll operations
    let node : Node :=
      .tag "main_dialog" .empty
        (.sequence
          [.tag "vbox" .empty
              (.tag "popup_dialog" .empty
                (.tag "push_button" .empty (.text "ok"))),
            .tag "push_button" .empty (.text "close")])
    let run :=
      Effect.runFrom (compile WidgetTree.factory node)
        { toolkit := WidgetTree.empty
          context := Context.start none }
    tree.Walks tree.roots [⟨0⟩, ⟨2⟩, ⟨1⟩] ∧
      List.Forall₂ (Markup.Opens tree) [⟨0⟩, ⟨2⟩, ⟨1⟩]
        (Markup.openings (Markup.document tree).toList) ∧
      run.2.toolkit.roots = [⟨0⟩, ⟨2⟩] ∧
      ∀ other, run.2.toolkit.Walks [⟨0⟩] other ↔ other = [⟨0⟩, ⟨1⟩, ⟨4⟩] := by
  intro operations tree node run
  have compiled : run = (.ok (.widget ⟨0⟩), run.2) := rfl
  have roots : run.2.toolkit.roots = [⟨0⟩, ⟨2⟩] := rfl
  rcases formats_share_walk operations 30 with
    ⟨⟨walk, unique, -, -, opened, -⟩, ascending⟩
  rcases ascending node _ _ _ rfl compiled ⟨0⟩ (by simp [roots]) with
    ⟨met, only, -⟩
  have same : [⟨0⟩, ⟨2⟩, ⟨1⟩] = walk := by
    have formed := (WidgetTree.Reachable.empty.performAll operations).wellFormed
    have order :
        (Branch.preorderAll tree.forest).map Widget.id = [⟨0⟩, ⟨2⟩, ⟨1⟩] := by
      decide +kernel
    rw [← unique, ← order]
    exact formed.walks_forest
  have outer : [⟨0⟩, ⟨1⟩, ⟨4⟩] = met := by
    have reached :=
      WidgetTree.Reachable.empty.perform (.compile node (Context.start none))
    have order :
        (Branch.preorderAll (run.2.toolkit.branches 5 [⟨0⟩])).map Widget.id =
          [⟨0⟩, ⟨1⟩, ⟨4⟩] := by
      decide +kernel
    rw [← only, ← order]
    exact reached.wellFormed.walks_branches (by decide +kernel)
  exact ⟨(unique _).mpr same, same ▸ opened, roots, outer ▸ only⟩

end WidgetTemplate
