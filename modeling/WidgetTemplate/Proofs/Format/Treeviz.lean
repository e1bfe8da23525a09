import Mathlib.Data.List.TakeWhile
import WidgetTemplate.Proofs.Format.Rows
import WidgetTemplate.Proofs.Text.Lines
import WidgetTemplate.Proofs.WidgetTree.Figure

/-!
# Drawings can be read back

A row tells how deep its widget stands, since every column and connector in
front of it counts for one level, and if the label is not cut it tells the
element and the text.  The rows of a forest, in order, with their depths, are
enough to grow the forest again: going through them from the last to the first,
a widget takes everything behind it that stands deeper.
-/

namespace WidgetTemplate

namespace Treeviz

variable {tree : WidgetTree} {width : Nat}

/-! ## A reader of drawings -/

/-- What a row tells about its widget. -/
structure Sketch where
  depth : Nat
  element : Element
  text : Option String

/-- The number of columns and connectors in front of an icon, and the label. -/
def readFront : List Char → Nat × List Char
  | ' ' :: ' ' :: rest | '│' :: ' ' :: rest
  | '├' :: '─' :: ' ' :: rest | '└' :: '─' :: ' ' :: rest =>
      let (depth, label) := readFront rest
      (depth + 1, label)
  | _ :: ' ' :: label => (0, label)
  | label => (0, label)

/-- The element and the text in a label that is not cut. -/
def readLabel (label : List Char) : Option (Element × Option String) :=
  let name := label.takeWhile (· ≠ ' ')
  let text :=
    match label.dropWhile (· ≠ ' ') with
    | ' ' :: '"' :: quoted => (Text.readQuoted quoted).map fun found =>
        String.ofList found.1
    | _ => none
  (Element.named? (String.ofList name)).map (·, text)

def readRow (row : String) : Option Sketch :=
  let (depth, label) := readFront row.toList
  (readLabel label).map fun (element, text) => { depth, element, text }

/--
A widget in front of what has grown already, each with its depth.  What stands
deeper is attached to the widget, up to the first that does not.
-/
def grow (sketch : Sketch) (grown : List (Nat × Figure)) : List (Nat × Figure) :=
  let attached := grown.takeWhile (sketch.depth < ·.1)
  (sketch.depth, .node sketch.element sketch.text (attached.map Prod.snd)) ::
    grown.dropWhile (sketch.depth < ·.1)

/-- The forest that a drawing shows. -/
def read (drawing : String) : List Figure :=
  (((Text.linesOf drawing).filterMap readRow).foldr grow []).map Prod.snd

/-! ## Reading a row -/

/-- What is in front of a row puts it `depth` levels deeper. -/
def Indents (front : String) (depth : Nat) : Prop :=
  ∀ rest,
    readFront (front.toList ++ rest) =
      ((readFront rest).1 + depth, (readFront rest).2)

theorem Indents.empty : Indents "" 0 := fun _ => rfl

theorem Indents.append {front behind : String} {outer inner : Nat}
    (first : Indents front outer) (second : Indents behind inner) :
    Indents (front ++ behind) (outer + inner) := by
  intro rest
  rw [String.toList_append, List.append_assoc, first, second, Nat.add_comm outer,
    Nat.add_assoc]

theorem indents_column (isLast : Bool) : Indents (column isLast) 1 := by
  intro rest
  cases isLast with
  | false => rfl
  | true => rfl

theorem indents_connector (isLast : Bool) : Indents (connector isLast) 1 := by
  intro rest
  cases isLast with
  | false => rfl
  | true => rfl

theorem readFront_icon (category : Category) (label : List Char) :
    readFront ((icon category).toList ++ ' ' :: label) = (0, label) := by
  cases category with
  | toplevel => rfl
  | container => rfl
  | leaf => rfl

theorem readLabel_label (widget : Widget) :
    readLabel (label widget).toList = some (widget.element, widget.text) := by
  have noSpace : ' ' ∉ widget.element.name.toList :=
    widget.element.notMem_name (by decide)
  have plain : ∀ char ∈ widget.element.name.toList, decide (char ≠ ' ') = true :=
    fun char member => decide_eq_true (ne_of_mem_of_not_mem member noSpace)
  rw [label]
  cases widget.text with
  | none =>
      simp only [readLabel, List.takeWhile_eq_self_iff.mpr plain,
        List.dropWhile_eq_nil_iff.mpr plain]
      simp
  | some text =>
      have chars :
          (widget.element.name ++ " " ++ Text.quoted text).toList =
            widget.element.name.toList ++
              ' ' :: '"' :: (text.toList.flatMap Text.quotedChar ++ ['"']) := by
        simp
      rw [chars]
      simp only [readLabel, List.takeWhile_append_of_pos plain,
        List.dropWhile_append_of_pos plain, ne_eq, not_true_eq_false, decide_false,
        Bool.false_eq_true, not_false_eq_true, List.takeWhile_cons_of_neg,
        List.dropWhile_cons_of_neg, Text.readQuoted_flatMap_quotedChar]
      simp

/-- A row with the whole label tells the widget and its depth. -/
theorem readRow_line {front : String} {depth : Nat} {widget : Widget}
    (indents : Indents front depth) (fits : (label widget).length ≤ width) :
    readRow (line width front widget) =
      some
        { depth
          element := widget.element
          text := widget.text } := by
  have whole : cut (label widget) width = label widget :=
    if_neg (Nat.not_lt.mpr fits)
  have chars :
      (line width front widget).toList =
        front.toList ++
          ((icon widget.element.category).toList ++
            ' ' :: (label widget).toList) := by
    simp [line, whole]
  rw [readRow, chars, indents, readFront_icon]
  simp [readLabel_label]

/-! ## Reading the rows of a forest -/

/-- What the rows of branches tell, if the branches stand at a depth. -/
def sketches (depth : Nat) : List Branch → List Sketch
  | [] => []
  | .node widget attached :: rest =>
      { depth
        element := widget.element
        text := widget.text } ::
        sketches (depth + 1) attached ++ sketches depth rest

/-- No label in the arena is cut. -/
def Fits (tree : WidgetTree) (width : Nat) : Prop :=
  ∀ widget ∈ tree.widgets, (label widget).length ≤ width

instance : Decidable (Fits tree width) :=
  inferInstanceAs
    (Decidable (∀ widget ∈ tree.widgets, (label widget).length ≤ width))

theorem readRow_attachedLines (fits : Fits tree width) :
    (branches : List Branch) → Branch.AllComplete tree branches →
      (columns : String) → (depth : Nat) → Indents columns depth →
        (attachedLines width columns branches).filterMap readRow =
          sketches (depth + 1) branches
  | [], _, columns, depth, _ => by
      rw [attachedLines, sketches, List.filterMap_nil]
  | .node widget attached :: rest, ⟨⟨found, _, inner⟩, later⟩, columns,
    depth, indents => by
      have itself :=
        readRow_line (indents.append (indents_connector rest.isEmpty))
          (fits widget (Array.mem_of_getElem? found))
      have below :=
        readRow_attachedLines fits attached inner
          (columns ++ column rest.isEmpty) (depth + 1)
          (indents.append (indents_column rest.isEmpty))
      have beside := readRow_attachedLines fits rest later columns depth indents
      rw [attachedLines, List.filterMap_append, List.filterMap_cons_some itself,
        below, beside, sketches]

theorem readRow_rootLines (fits : Fits tree width) :
    (branches : List Branch) → Branch.AllComplete tree branches →
      (branches.flatMap (rootLines width)).filterMap readRow = sketches 0 branches
  | [], _ => by
      rw [List.flatMap_nil, sketches, List.filterMap_nil]
  | .node widget attached :: rest, ⟨⟨found, _, inner⟩, later⟩ => by
      have itself :=
        readRow_line Indents.empty (fits widget (Array.mem_of_getElem? found))
      have below := readRow_attachedLines fits attached inner "" 0 Indents.empty
      have beside := readRow_rootLines fits rest later
      rw [List.flatMap_cons, rootLines, List.filterMap_append,
        List.filterMap_cons_some itself, below, beside, sketches]

/-- Nothing is attached to a widget if what comes next does not stand deeper. -/
theorem span_deeper {depth : Nat} {grown : List (Nat × Figure)}
    (shallow : ∀ first ∈ grown.head?, first.1 ≤ depth) :
    grown.takeWhile (depth < ·.1) = [] ∧
      grown.dropWhile (depth < ·.1) = grown := by
  cases grown with
  | nil => exact ⟨rfl, rfl⟩
  | cons first rest =>
      have stops : ¬ decide (depth < first.1) = true := by
        simpa using shallow first rfl
      exact ⟨List.takeWhile_cons_of_neg stops, List.dropWhile_cons_of_neg stops⟩

/--
The rows of branches grow into the figures of the branches, in front of what
does not stand deeper than they do.
-/
theorem foldr_grow : (branches : List Branch) → (depth : Nat) →
    (grown : List (Nat × Figure)) → (∀ first ∈ grown.head?, first.1 ≤ depth) →
      (sketches depth branches).foldr grow grown =
        (Branch.figures branches).map (depth, ·) ++ grown
  | [], depth, grown, _ => by
      rw [sketches, Branch.figures, List.foldr_nil, List.map_nil, List.nil_append]
  | .node widget attached :: rest, depth, grown, shallow => by
      -- The fold goes from the last row to the first, so `rest` has grown already.
      have beside := foldr_grow rest depth grown shallow
      -- Whatever comes behind the branch stands no deeper than its widget.
      have stops : ∀ first ∈ ((Branch.figures rest).map (depth, ·) ++ grown).head?,
          first.1 ≤ depth := by
        cases Branch.figures rest with
        | nil => exact shallow
        | cons figure figures => simp
      have below :=
        foldr_grow attached (depth + 1)
          ((Branch.figures rest).map (depth, ·) ++ grown)
          fun first member => Nat.le_succ_of_le (stops first member)
      have deeper : ∀ figure ∈ (Branch.figures attached).map (depth + 1, ·),
          decide (depth < figure.1) = true := by
        simp
      rcases span_deeper stops with ⟨none, all⟩
      rw [sketches, List.cons_append, List.foldr_cons, List.foldr_append,
        beside, below, grow]
      simp only
      rw [List.takeWhile_append_of_pos deeper, List.dropWhile_append_of_pos deeper,
        none, all, List.append_nil, List.map_map]
      simp [Branch.figures, Branch.figure, Function.comp_def]

/-- The forest of an arena is read back from its drawing, if no label is cut. -/
theorem read_draw (formed : tree.WellFormed) (fits : Fits tree width) :
    read (draw width tree) = tree.figures := by
  have taken : Text.linesOf (draw width tree) = lines width tree :=
    Text.linesOf_ofLines (newline_not_mem_lines formed width)
  rw [read, taken, lines,
    readRow_rootLines fits tree.forest formed.forest_complete.2,
    foldr_grow tree.forest 0 [] (by simp)]
  simp [WidgetTree.figures, Function.comp_def]

/-! ## Arenas with the same drawing -/

theorem line_congr {widget other : Widget}
    (element : widget.element = other.element) (text : widget.text = other.text)
    (front : String) :
    line width front widget = line width front other := by
  rw [line, line, label, label, element, text]

/-- Branches that look alike are drawn alike. -/
theorem attachedLines_congr : (left right : List Branch) →
    Branch.figures left = Branch.figures right → (columns : String) →
      attachedLines width columns left = attachedLines width columns right
  | [], [], _, columns => rfl
  | .node widget attached :: rest, .node other beside :: later, same, columns => by
      rcases Branch.figures_cons_eq same with ⟨element, text, below, behind⟩
      have last : rest.isEmpty = later.isEmpty := by
        rw [← List.isEmpty_map (f := Branch.figure), ← Branch.figures_eq_map,
          behind, Branch.figures_eq_map, List.isEmpty_map]
      rw [attachedLines, attachedLines, last, line_congr element text,
        attachedLines_congr attached beside below,
        attachedLines_congr rest later behind]

theorem rootLines_congr : (left right : List Branch) →
    Branch.figures left = Branch.figures right →
      left.flatMap (rootLines width) = right.flatMap (rootLines width)
  | [], [], _ => rfl
  | .node widget attached :: rest, .node other beside :: later, same => by
      rcases Branch.figures_cons_eq same with ⟨element, text, below, behind⟩
      rw [List.flatMap_cons, List.flatMap_cons, rootLines, rootLines,
        line_congr element text, attachedLines_congr attached beside below,
        rootLines_congr rest later behind]

/--
A drawing shows every widget on one line and tells how the widgets are nested.
Whatever was done to an arena that was empty at first, the lines are those of
its widgets, each once, from the roots on and each before what is below it, and
each is drawn as the arena says.  If no label is cut, two arenas have the same
drawing exactly if they have the same forest.
-/
theorem drawing_tells_forest
    (first second : List WidgetTree.Operation) (width : Nat) :
    let left := WidgetTree.empty.performAll first
    let right := WidgetTree.empty.performAll second
    let walk := (Branch.preorderAll left.forest).map Widget.id
    (∃ rows,
        draw width left = Text.ofLines rows ∧
          (∀ row ∈ rows, '\n' ∉ row.toList) ∧
          rows.length = left.size ∧
          List.Forall₂ (Draws left width) walk rows) ∧
      left.forest.map Branch.id = left.roots ∧
      Branch.AllComplete left left.forest ∧
      walk.Perm left.ids ∧
      (Fits left width → Fits right width →
        (draw width left = draw width right ↔ left.figures = right.figures)) := by
  intro left right walk
  have formed := (WidgetTree.Reachable.empty.performAll first).wellFormed
  have formed' := (WidgetTree.Reachable.empty.performAll second).wellFormed
  have drawn := lines_drawn formed width
  have once : walk.Perm left.ids := formed.preorderAll_forest_perm
  have count : (lines width left).length = left.size := by
    rw [← drawn.length_eq, once.length_eq, WidgetTree.ids, List.length_map,
      List.length_range]
  refine ⟨⟨lines width left, rfl, newline_not_mem_lines formed width, count,
    drawn⟩, formed.forest_complete.1, formed.forest_complete.2, once,
    fun fits fits' => ?_⟩
  constructor
  · intro same
    rw [← read_draw formed fits, same, read_draw formed' fits']
  · intro same
    rw [draw, lines, rootLines_congr left.forest right.forest same, draw, lines]

/--
A button inside a row and the same button behind the row are drawn in different
ways; the line feed in its label breaks no line.
-/
theorem drawing_tells_forest_around_line_feed :
    let box : WidgetTree.Operation := .ask (.container .vbox none)
    let row : WidgetTree.Operation := .ask (.container .hbox (some ⟨0⟩))
    let inside : WidgetTree.Operation := .ask (.leaf .pushButton (some ⟨1⟩) "a\nb")
    let behind : WidgetTree.Operation := .ask (.leaf .pushButton (some ⟨0⟩) "a\nb")
    let left := WidgetTree.empty.performAll [box, row, inside]
    let right := WidgetTree.empty.performAll [box, row, behind]
    Fits left 20 ∧ Fits right 20 ∧
      draw 20 left ≠ draw 20 right ∧
      left.forest.map Branch.id = [⟨0⟩] ∧
      ∃ rows, draw 20 left = Text.ofLines rows ∧ rows.length = 3 := by
  intro box row inside behind left right
  have fits : Fits left 20 := by decide +kernel
  have fits' : Fits right 20 := by decide +kernel
  have single : left.roots = [⟨0⟩] := by decide +kernel
  have size : left.size = 3 := by decide +kernel
  rcases drawing_tells_forest [box, row, inside] [box, row, behind] 20 with
    ⟨⟨rows, drawn, -, count, -⟩, roots, -, -, told⟩
  refine ⟨fits, fits', fun same => ?_, roots.trans single, rows, drawn,
    count.trans size⟩
  -- The box has one widget attached to it in one arena, and two in the other.
  have one : left.figures.map (·.attached.length) = [1] := by decide +kernel
  have two : right.figures.map (·.attached.length) = [2] := by decide +kernel
  rw [(told fits fits').mp same, two] at one
  cases one

end Treeviz

end WidgetTemplate
