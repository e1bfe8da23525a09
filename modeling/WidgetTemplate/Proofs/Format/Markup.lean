import Mathlib.Data.List.Induction
import WidgetTemplate.Format.Markup
import WidgetTemplate.Proofs.Text.Entity
import WidgetTemplate.Proofs.Text.Lines
import WidgetTemplate.Proofs.WidgetTree.Figure

/-!
# Markup can be read back

A text with entities has no angle brackets, so every bracket in markup belongs
to a tag.  A reader can therefore go through markup character by character.  It
keeps what is complete at each open level: an opening tag starts a level, and a
closing tag ends one and puts the figure of its element at the end of the level
around it.  Only in a leaf is the text between two tags of any account, so the
reader pays no attention to indentation.
-/

namespace WidgetTemplate.Markup

/-! ## A reader of markup -/

/-- What a reader is in the middle of. -/
inductive Mode where
  /-- Between tags, outside of leaves. -/
  | between
  /-- In a leaf, behind a part of its text. -/
  | inside (text : List Char)
  /--
  In a tag, behind a part of its name, with the text of a leaf in front of it.
  -/
  | tag (text : Option (List Char)) (name : List Char)

/-- The text of a leaf that a reader has read so far. -/
def Mode.text? : Mode → Option (List Char)
  | .inside text => some text
  | _ => none

structure Reading where
  /-- The figures that are complete, at each level, innermost level first. -/
  levels : List (List Figure)
  mode : Mode

namespace Reading

def start : Reading where
  levels := [[]]
  mode := .between

/-- The reading behind the opening tag of an element. -/
def enter (levels : List (List Figure)) (element : Element) : Reading where
  levels := [] :: levels
  mode := if element.category = .leaf then .inside [] else .between

/-- The reading behind the closing tag of an element. -/
def leave (element : Element) (text : Option (List Char)) :
    List (List Figure) → Reading
  | attached :: level :: outer =>
      let shown := text.map fun chars => String.ofList (Text.readEntities chars)
      { levels := (level ++ [.node element shown attached]) :: outer
        mode := .between }
  | levels =>
      { levels
        mode := .between }

/-- The reading behind a tag, by what stands between its brackets. -/
def finish (levels : List (List Figure)) (text : Option (List Char))
    (name : List Char) : Reading :=
  let closes := name.head? = some '/'
  let plain := if closes then name.tail else name
  match Element.named? (String.ofList plain) with
  | none =>
      { levels
        mode := .between }
  | some element =>
      if closes then
        leave element text levels
      else
        enter levels element

/-- The reading behind one more character. -/
def advance (reading : Reading) (char : Char) : Reading :=
  match reading.mode with
  | .between =>
      if char = '<' then { reading with mode := .tag none [] } else reading
  | .inside text =>
      if char = '<' then { reading with mode := .tag (some text) [] }
      else { reading with mode := .inside (text ++ [char]) }
  | .tag text name =>
      if char = '>' then finish reading.levels text name
      else { reading with mode := .tag text (name ++ [char]) }

def through (reading : Reading) (text : String) : Reading :=
  text.toList.foldl advance reading

@[simp]
theorem through_append (reading : Reading) (left right : String) :
    reading.through (left ++ right) = (reading.through left).through right := by
  rw [through, String.toList_append, List.foldl_append]
  rfl

end Reading

/-- The figures that markup shows, if it ends where all tags are closed. -/
def read (markup : String) : Option (List Figure) :=
  match Reading.start.through markup with
  | ⟨[figures], .between⟩ => some figures
  | _ => none

/-! ## Reading the parts of a line -/

namespace Reading

variable {levels : List (List Figure)}

/-- Outside of leaves, what is between tags is passed over. -/
theorem through_between {text : String} (plain : '<' ∉ text.toList) :
    through { levels, mode := .between } text = { levels, mode := .between } := by
  rw [through]
  generalize text.toList = chars at plain
  induction chars with
  | nil => rfl
  | cons char rest induction =>
      rw [List.mem_cons, not_or] at plain
      have passed : advance { levels, mode := .between } char =
        { levels, mode := .between } :=
        if_neg (Ne.symm plain.1)
      rw [List.foldl_cons, passed, induction plain.2]

theorem through_inside {text : String} (plain : '<' ∉ text.toList) :
    through { levels, mode := .inside [] } text =
      { levels, mode := .inside text.toList } := by
  rw [through]
  generalize text.toList = chars at plain
  induction chars using List.reverseRecOn with
  | nil => rfl
  | append_singleton front char induction =>
      rw [List.mem_append, List.mem_singleton, not_or] at plain
      rw [List.foldl_concat, induction plain.1]
      exact if_neg (Ne.symm plain.2)

theorem foldl_name {name : List Char} (plain : '>' ∉ name)
    (text : Option (List Char)) :
    name.foldl advance { levels, mode := .tag text [] } =
      { levels, mode := .tag text name } := by
  induction name using List.reverseRecOn with
  | nil => rfl
  | append_singleton front char induction =>
      rw [List.mem_append, List.mem_singleton, not_or] at plain
      rw [List.foldl_concat, induction plain.1]
      exact if_neg (Ne.symm plain.2)

/-- A tag is read as a whole, wherever it stands outside of another tag. -/
theorem foldl_tag {name : List Char} (plain : '>' ∉ name) {mode : Mode}
    (outside : ∀ text front, mode ≠ .tag text front) :
    ('<' :: name ++ ['>']).foldl advance { levels, mode } =
      finish levels mode.text? name := by
  have opened :
      advance { levels, mode } '<' = { levels, mode := .tag mode.text? [] } := by
    cases mode with
    | between => rfl
    | inside text => rfl
    | tag text front => exact (outside text front rfl).elim
  rw [List.cons_append, List.foldl_cons, opened, List.foldl_append,
    foldl_name plain]
  rfl

/-- No name of an element looks like the name in a closing tag. -/
theorem head?_name_ne (element : Element) : element.name.toList.head? ≠ some '/' :=
  fun first => element.notMem_name (by decide) (List.mem_of_mem_head? first)

theorem through_opening (element : Element) :
    through { levels, mode := .between } (opening element) =
      enter levels element := by
  have plain : '>' ∉ element.name.toList := element.notMem_name (by decide)
  have chars : (opening element).toList = '<' :: element.name.toList ++ ['>'] := by
    simp [opening]
  rw [through, chars, foldl_tag plain (by simp), finish]
  simp [head?_name_ne]

theorem through_closing (element : Element) {mode : Mode}
    (outside : ∀ text front, mode ≠ .tag text front) :
    through { levels, mode } (closing element) =
      leave element mode.text? levels := by
  have chars :
      (closing element).toList = '<' :: ('/' :: element.name.toList) ++ ['>'] := by
    simp [closing]
  have plain : '>' ∉ '/' :: element.name.toList := by
    simp [element.notMem_name]
  rw [through, chars, foldl_tag plain outside, finish]
  simp

theorem through_indentation (depth : Nat) :
    through { levels, mode := .between } (indentation depth) =
      { levels, mode := .between } := by
  refine through_between ?_
  simp [indentation]

theorem through_newline :
    through { levels, mode := .between } "\n" = { levels, mode := .between } :=
  through_between (by decide)

end Reading

/-! ## Lines of branches -/

theorem lines_single (depth : Nat) (widget : Widget) (rest : List Branch) :
    lines depth (.node widget [] :: rest) =
      (indentation depth ++
          (opening widget.element ++ content widget ++ closing widget.element)) ::
        lines depth rest := by
  rw [lines, String.append_assoc, String.append_assoc, String.append_assoc]

theorem lines_attached (depth : Nat) (widget : Widget) {attached : List Branch}
    (nonempty : attached ≠ []) (rest : List Branch) :
    lines depth (.node widget attached :: rest) =
      (indentation depth ++ opening widget.element ++ content widget) ::
        lines (depth + 1) attached ++
        (indentation depth ++ closing widget.element) :: lines depth rest := by
  rw [lines]
  exact nonempty

/-! ## Reading branches -/

section Read

variable {tree : WidgetTree}

open Reading

/--
A widget with nothing attached to it is read from one line: its tags, and what
stands between them if it is a leaf.
-/
theorem through_single (formed : tree.WellFormed) {widget : Widget}
    (complete : (Branch.node widget []).Complete tree)
    (level : List Figure) (outer : List (List Figure)) :
    through { levels := level :: outer, mode := .between }
        (opening widget.element ++ content widget ++ closing widget.element) =
      { levels := (level ++ [.node widget.element widget.text []]) :: outer
        mode := .between } := by
  rw [through_append, through_append, through_opening, content, enter]
  rcases formed.complete_cases complete with
    ⟨text, leaf, written, -⟩ | ⟨inner, silent⟩
  · have plain : '<' ∉ (Text.withEntities text).toList := fun member =>
      (Text.mem_withEntities member).1 rfl
    rw [if_pos leaf, written]
    simp only
    rw [through_inside plain, through_closing _ (by simp)]
    simp only [leave, Mode.text?, Option.map_some, Text.readEntities_withEntities,
      String.ofList_toList]
  · rw [if_neg inner, silent]
    simp only
    rw [through_between (by simp), through_closing _ (by simp)]
    rfl

/-- A widget with something attached is no leaf: between its tags are only tags. -/
theorem inner_of_attached (formed : tree.WellFormed) {widget : Widget}
    {first : Branch} {more : List Branch}
    (complete : (Branch.node widget (first :: more)).Complete tree) :
    widget.element.category ≠ .leaf ∧ widget.text = none := by
  rcases formed.complete_cases complete with ⟨_, _, _, nothing⟩ | inner
  · cases nothing
  · exact inner

/--
The lines of branches add the figures of the branches to the innermost level.
-/
theorem through_lines (formed : tree.WellFormed) (outer : List (List Figure)) :
    (branches : List Branch) → Branch.AllComplete tree branches →
      (depth : Nat) → (level : List Figure) →
        through { levels := level :: outer, mode := .between }
            (Text.ofLines (lines depth branches)) =
          { levels := (level ++ Branch.figures branches) :: outer
            mode := .between }
  | [], _, depth, level => by
      rw [lines, Branch.figures, List.append_nil]
      rfl
  | .node widget [] :: rest, ⟨complete, later⟩, depth, level => by
      rw [lines_single, Text.ofLines_cons, through_append, through_append,
        through_append, through_indentation, through_single formed complete,
        through_newline, through_lines formed outer rest later, Branch.figures,
        Branch.figure, Branch.figures, List.append_assoc, List.singleton_append]
  | .node widget (first :: more) :: rest, ⟨complete, later⟩, depth, level => by
      rcases inner_of_attached formed complete with ⟨inner, silent⟩
      -- What is attached is read one level further in, from an empty level on.
      have attached :=
        through_lines formed (level :: outer)
          (first :: more) complete.2.2 (depth + 1) []
      have nothing : content widget = "" := by
        rw [content, silent]
      rw [lines_attached depth widget (List.cons_ne_nil first more), nothing,
        String.append_empty, Text.ofLines_append, Text.ofLines_cons,
        Text.ofLines_cons]
      simp only [through_append, through_indentation, through_opening,
        enter, if_neg inner]
      rw [through_newline, attached, through_indentation,
        through_closing _ (by simp)]
      simp only [leave, through_newline]
      rw [through_lines formed outer rest later]
      simp [Branch.figures, Branch.figure, Mode.text?, silent]

/-- The forest of an arena is read back from its markup. -/
theorem read_document (formed : tree.WellFormed) :
    read (document tree) = some tree.figures := by
  have readBack :
      Reading.start.through (document tree) =
        { levels := [[] ++ tree.figures]
          mode := .between } :=
    through_lines formed [] tree.forest formed.forest_complete.2 0 []
  rw [read, readBack]
  rfl

end Read

/-! ## Arenas with the same markup -/

/-- Branches that look alike are written alike. -/
theorem lines_congr : (depth : Nat) → (left right : List Branch) →
    Branch.figures left = Branch.figures right →
      lines depth left = lines depth right
  | depth, [], [], _ => rfl
  | depth, .node widget attached :: rest, .node other beside :: later, same => by
      rcases Branch.figures_cons_eq same with ⟨element, text, below, behind⟩
      have rows := lines_congr depth rest later behind
      have written : content widget = content other := by
        rw [content, text, content]
      match attached, beside, below with
      | [], [], _ => rw [lines_single, lines_single, element, written, rows]
      | first :: more, first' :: more', below =>
          rw [lines_attached depth widget (List.cons_ne_nil first more),
            lines_attached depth other (List.cons_ne_nil first' more'), element,
            written, rows,
            lines_congr (depth + 1) (first :: more) (first' :: more') below]

/--
Markup tells everything about a forest.  Whatever was done to two arenas that
were empty at first, and whatever the texts of their leaves are, they have the
same markup exactly if they have the same forest: the roots in order, and below
them, in order, what is attached, each with its element and its text.  There is
one reader that finds the forest of every arena in its markup.
-/
theorem markup_tells_forest (first second : List WidgetTree.Operation) :
    let left := WidgetTree.empty.performAll first
    let right := WidgetTree.empty.performAll second
    (document left = document right ↔ left.figures = right.figures) ∧
      read (document left) = some left.figures ∧
      left.forest.map Branch.id = left.roots ∧
      Branch.AllComplete left left.forest := by
  intro left right
  have formed := (WidgetTree.Reachable.empty.performAll first).wellFormed
  have formed' := (WidgetTree.Reachable.empty.performAll second).wellFormed
  refine ⟨⟨fun same => ?_, fun same => ?_⟩, read_document formed,
    formed.forest_complete⟩
  · have found : some left.figures = some right.figures := by
      rw [← read_document formed, same, read_document formed']
    exact Option.some.inj found
  · rw [document, lines_congr 0 left.forest right.forest same, document]

end WidgetTemplate.Markup
