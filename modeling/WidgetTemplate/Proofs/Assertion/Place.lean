import WidgetTemplate.Assertion
import WidgetTemplate.Proofs.Text.Lines
import WidgetTemplate.Proofs.WidgetTree.Arena

/-!
# Where a failed check is found

Checks on a widget lead on to checks on its children, so a check is made at the
end of a path of child positions.  A failed check is reported with the place of
the widget it is about.  `checkWidgetAll_reports` follows the checks down: the
path in the report leads to a widget, and a check that is made there does not
hold of it.

The text of a place can be read back, so the report alone tells the path.
-/

namespace WidgetTemplate

/-! ## Texts of places -/

/-- The place that a path of child positions leads to. -/
def Place.along (place : Place) : List Nat → Place
  | [] => place
  | position :: path => (Place.child place position).along path

/-- Positions as reports write them, each in brackets. -/
def bracketed (positions : List Nat) : String :=
  String.join (positions.map fun position => "[" ++ toString position ++ "]")

theorem bracketed_cons (position : Nat) (rest : List Nat) :
    bracketed (position :: rest) = "[" ++ toString position ++ "]" ++
      bracketed rest := by
  rw [bracketed, List.map_cons, String.join_cons, bracketed]

theorem Place.text_along (place : Place) (path : List Nat) :
    (place.along path).text = place.text ++ bracketed path := by
  induction path generalizing place with
  | nil => exact String.append_empty.symm
  | cons position path induction =>
      rw [along, induction, text, bracketed_cons]
      simp only [String.append_assoc]

/--
The place of a root and a path below it are written alike, as
positions in brackets.
-/
theorem Place.text_along_root (position : Nat) (path : List Nat) :
    ((Place.root position).along path).text =
      "root" ++ bracketed (position :: path) := by
  rw [text_along, text, bracketed_cons]
  simp only [String.append_assoc]
  rfl

theorem toList_toString_inj {number other : Nat}
    (same : (toString number).toList = (toString other).toList) :
    number = other := by
  rw [Nat.toString_eq_repr, Nat.toString_eq_repr, Nat.toList_repr, Nat.toList_repr]
    at same
  rw [← Nat.ofDigitChars_ten_toDigits (n := number), same,
    Nat.ofDigitChars_ten_toDigits]

theorem toList_bracketed_cons (position : Nat) (rest : List Nat) :
    (bracketed (position :: rest)).toList =
      '[' :: ((toString position).toList ++ ']' :: (bracketed rest).toList) := by
  rw [bracketed_cons]
  simp [String.toList_append]

/-- Positions are read off their brackets, up to a colon. -/
theorem bracketed_append_inj {positions others : List Nat} {rest later : List Char}
    (same : (bracketed positions).toList ++ ':' :: rest =
      (bracketed others).toList ++ ':' :: later) :
    positions = others ∧ rest = later := by
  induction positions generalizing others with
  | nil =>
      cases others with
      | nil => exact ⟨rfl, (List.cons.inj same).2⟩
      | cons other others =>
          rw [toList_bracketed_cons] at same
          exact absurd (List.cons.inj same).1 (by decide)
  | cons position positions induction =>
      rw [toList_bracketed_cons] at same
      cases others with
      | nil => exact absurd (List.cons.inj same).1 (by decide)
      | cons other others =>
          rw [toList_bracketed_cons] at same
          simp only [List.cons_append, List.append_assoc] at same
          rcases Text.append_sign_inj (Text.notMem_repr rfl position)
              (Text.notMem_repr rfl other) (List.cons.inj same).2 with
            ⟨digits, behind⟩
          rcases induction behind with ⟨rfl, rfl⟩
          exact ⟨congrArg (· :: positions) (toList_toString_inj digits), rfl⟩

/-! ## Following a path -/

namespace WidgetTree

variable {tree : WidgetTree}

/-- The widget that a path of child positions leads to from a widget. -/
def follow (tree : WidgetTree) (id : WidgetId) : List Nat → Option WidgetId
  | [] => some id
  | position :: path =>
      (tree.children id)[position]?.bind fun child => tree.follow child path

end WidgetTree

/--
The checks that are made at the end of a path, by checks on the
widget it starts from.
-/
inductive WidgetCheck.Asked :
    List WidgetCheck → List Nat → WidgetCheck → Prop where
  | here {checks : List WidgetCheck} {check : WidgetCheck}
      (member : check ∈ checks) :
      Asked checks [] check
  | inside {checks inner : List WidgetCheck} {position : Nat} {path : List Nat}
      {check : WidgetCheck} (member : .child position inner ∈ checks)
      (deeper : Asked inner path check) :
      Asked checks (position :: path) check

theorem WidgetCheck.Asked.of_subset {checks more : List WidgetCheck}
    {path : List Nat} {check : WidgetCheck} (asked : Asked checks path check)
    (subset : checks ⊆ more) :
    Asked more path check := by
  cases asked with
  | here member => exact .here (subset member)
  | inside member deeper => exact .inside (subset member) deeper

namespace WidgetTree

variable {tree : WidgetTree}

/-- What a widget is found to be where a check expects something else of it. -/
inductive Fails (tree : WidgetTree) (widget : Widget) :
    WidgetCheck → Mismatch → Prop where
  | element {name : String} (differs : widget.element.name ≠ name) :
      Fails tree widget (.element name) (.element name widget.element.name)
  | category {category : Category} (differs : widget.element.category ≠ category) :
      Fails tree widget (.category category)
        (.category category widget.element.category)
  | text {text : String} (differs : widget.text ≠ some text) :
      Fails tree widget (.text text) (.text text widget.text)
  | parent {parent : Option WidgetId} (differs : widget.parent ≠ parent) :
      Fails tree widget (.parent parent) (.parent parent widget.parent)
  | childCount {count : Nat} (differs : widget.children.length ≠ count) :
      Fails tree widget (.childCount count)
        (.childCount count widget.children.length (tree.childNames widget))
  | noChild {position : Nat} {checks : List WidgetCheck}
      (short : widget.children.length ≤ position) :
      Fails tree widget (.child position checks)
        (.noChild position widget.children.length)

/--
What a report can say of a widget on which checks are made at the end of a path.
-/
inductive Complains (tree : WidgetTree) (checks : List WidgetCheck)
    (path : List Nat) (id : WidgetId) : Mismatch → Prop where
  | missing (absent : tree.get? id = none) :
      Complains tree checks path id (.noWidget id)
  | fails {widget : Widget} {check : WidgetCheck} {mismatch : Mismatch}
      (found : tree.get? id = some widget)
        (asked : WidgetCheck.Asked checks path check)
      (fails : tree.Fails widget check mismatch) :
      Complains tree checks path id mismatch

/-- A failed check is reported with the place of the widget that it is about. -/
def Reports (tree : WidgetTree) (place : Place) (id : WidgetId)
    (checks : List WidgetCheck) (failure : CheckFailure) : Prop :=
  ∃ path reached mismatch,
    failure = .widget (place.along path) mismatch ∧
      tree.follow id path = some reached ∧
        tree.Complains checks path reached mismatch

theorem Complains.of_subset {checks more : List WidgetCheck} {path : List Nat}
    {id : WidgetId} {mismatch : Mismatch}
    (complains : tree.Complains checks path id mismatch) (subset : checks ⊆ more) :
    tree.Complains more path id mismatch := by
  cases complains with
  | missing absent => exact .missing absent
  | fails found asked fails => exact .fails found (asked.of_subset subset) fails

theorem Reports.of_subset {place : Place} {id : WidgetId}
    {checks more : List WidgetCheck} {failure : CheckFailure}
    (reports : tree.Reports place id checks failure) (subset : checks ⊆ more) :
    tree.Reports place id more failure := by
  rcases reports with ⟨path, reached, mismatch, same, leads, complains⟩
  exact ⟨path, reached, mismatch, same, leads, complains.of_subset subset⟩

/-- A check on the widget itself is reported with the place of the widget. -/
theorem Reports.here {place : Place} {id : WidgetId} {widget : Widget}
    {check : WidgetCheck} {mismatch : Mismatch}
    (found : tree.get? id = some widget)
    (fails : tree.Fails widget check mismatch) :
    tree.Reports place id [check] (.widget place mismatch) :=
  ⟨[], id, mismatch, rfl, rfl,
    .fails found (.here (List.mem_singleton_self _)) fails⟩

theorem follow_cons {id child : WidgetId} {widget : Widget} {position : Nat}
    (found : tree.get? id = some widget)
    (at_ : widget.children[position]? = some child) (path : List Nat) :
    tree.follow id (position :: path) = tree.follow child path := by
  rw [follow, children_of_found found, at_, Option.bind_some]

/-- A check on a child is reported one step down the path. -/
theorem Reports.inside {place : Place} {id child : WidgetId} {widget : Widget}
    {position : Nat} {checks : List WidgetCheck} {failure : CheckFailure}
    (found : tree.get? id = some widget)
    (at_ : widget.children[position]? = some child)
    (reports : tree.Reports (.child place position) child checks failure) :
    tree.Reports place id [.child position checks] failure := by
  rcases reports with ⟨path, reached, mismatch, same, leads, complains⟩
  refine ⟨position :: path, reached, mismatch, same, ?_, ?_⟩
  · rw [follow_cons found at_, leads]
  · cases complains with
    | missing absent => exact .missing absent
    | fails there asked fails =>
        exact .fails there (.inside (List.mem_singleton_self _) asked) fails

theorem expect_eq_error_iff {place : Place} {condition : Bool}
    {mismatch : Mismatch} {failure : CheckFailure} :
    expect place condition mismatch = .error failure ↔
      condition = false ∧ failure = .widget place mismatch := by
  cases condition with
  | true => simp [expect]
  | false => simp [expect, eq_comm]

-- The place of a nested check is one step longer than the place around it, so
-- the induction runs over checks with the place still open.
mutual

/-- A check on a widget, and the checks on its children that it leads to. -/
theorem checkWidget_reports {id : WidgetId} {widget : Widget}
    {failure : CheckFailure} (found : tree.get? id = some widget) (place : Place) :
    (check : WidgetCheck) → tree.checkWidget place widget check = .error failure →
      tree.Reports place id [check] failure
  | .element name, failed => by
      rcases expect_eq_error_iff.mp failed with ⟨differs, rfl⟩
      exact .here found (.element (beq_eq_false_iff_ne.mp differs))
  | .category category, failed => by
      rcases expect_eq_error_iff.mp failed with ⟨differs, rfl⟩
      exact .here found (.category (beq_eq_false_iff_ne.mp differs))
  | .text text, failed => by
      rcases expect_eq_error_iff.mp failed with ⟨differs, rfl⟩
      exact .here found (.text (beq_eq_false_iff_ne.mp differs))
  | .parent parent, failed => by
      rcases expect_eq_error_iff.mp failed with ⟨differs, rfl⟩
      exact .here found (.parent (beq_eq_false_iff_ne.mp differs))
  | .childCount count, failed => by
      rcases expect_eq_error_iff.mp failed with ⟨differs, rfl⟩
      exact .here found (.childCount (beq_eq_false_iff_ne.mp differs))
  | .child position checks, failed => by
      rw [checkWidget] at failed
      cases at_ : widget.children[position]? with
      | none =>
          rw [at_] at failed
          cases failed
          exact .here found (.noChild (List.getElem?_eq_none_iff.mp at_))
      | some child =>
          rw [at_] at failed
          apply Reports.inside found at_
          cases there : tree.get? child with
          | none =>
              simp only [there] at failed
              cases failed
              exact ⟨[], child, _, rfl, rfl, .missing there⟩
          | some below =>
              simp only [there] at failed
              exact checkWidgetAll_reports there
                (.child place position) checks failed

/-- The first of the checks on a widget that fails. -/
theorem checkWidgetAll_reports {id : WidgetId} {widget : Widget}
    {failure : CheckFailure} (found : tree.get? id = some widget) (place : Place) :
    (checks : List WidgetCheck) →
      tree.checkWidgetAll place widget checks = .error failure →
        tree.Reports place id checks failure
  | [], failed => nomatch failed
  | check :: rest, failed => by
      rw [checkWidgetAll] at failed
      cases first : tree.checkWidget place widget check with
      | error reported =>
          rw [first] at failed
          cases failed
          exact (checkWidget_reports found place check first).of_subset (by simp)
      | ok _ =>
          rw [first] at failed
          exact (checkWidgetAll_reports found place rest failed).of_subset
            (List.subset_cons_self _ _)

end

theorem checkAt_reports {place : Place} {id : WidgetId} {checks : List WidgetCheck}
    {failure : CheckFailure}
    (failed : tree.checkAt place id checks = .error failure) :
    tree.Reports place id checks failure := by
  rw [checkAt] at failed
  cases found : tree.get? id with
  | none =>
      rw [found] at failed
      cases failed
      exact ⟨[], id, _, rfl, rfl, .missing found⟩
  | some widget =>
      rw [found] at failed
      exact checkWidgetAll_reports found place checks failed

/--
Checks on a root fail because there is no such root, or as checks
on a widget fail.
-/
theorem check_root_reports {position : Nat} {checks : List WidgetCheck}
    {failure : CheckFailure}
    (failed : tree.check (.root position checks) = .error failure) :
    (tree.roots.length ≤ position ∧ failure = .noRoot position tree.roots.length) ∨
      ∃ root, tree.roots[position]? = some root ∧
        tree.Reports (.root position) root checks failure := by
  rw [check] at failed
  cases at_ : tree.roots[position]? with
  | none =>
      rw [at_] at failed
      cases failed
      exact Or.inl ⟨List.getElem?_eq_none_iff.mp at_, rfl⟩
  | some root =>
      rw [at_] at failed
      exact Or.inr ⟨root, rfl, checkAt_reports failed⟩

/-! ## Reports -/

theorem head?_append_of_some {front : String} {char : Char}
    (first : front.toList.head? = some char) (back : String) :
    (front ++ back).toList.head? = some char := by
  rw [String.toList_append, List.head?_append, first]
  rfl

/--
A report that is not about a widget starts with another letter than a root does.
-/
theorem head?_message_of_tree {failure : CheckFailure}
    (whole : ∀ place mismatch, failure ≠ .widget place mismatch) :
    failure.message.toList.head? = some 't' := by
  cases failure with
  | widgetCount expected found =>
      show ("tree: Expected " ++ toString expected ++ " widgets, found " ++
        toString found).toList.head? = some 't'
      iterate 3 apply head?_append_of_some
      rfl
  | rootCount expected found =>
      show ("tree: Expected " ++ toString expected ++ " roots, found " ++
        toString found).toList.head? = some 't'
      iterate 3 apply head?_append_of_some
      rfl
  | noRoot position count =>
      show ("tree: Root index " ++ toString position ++ " out of bounds (" ++
        toString count ++ " roots)").toList.head? = some 't'
      iterate 4 apply head?_append_of_some
      rfl
  | widget place mismatch => exact absurd rfl (whole place mismatch)

theorem message_widget (place : Place) (path : List Nat) (mismatch : Mismatch) :
    (CheckFailure.widget (place.along path) mismatch).message =
      place.text ++ (bracketed path ++ (": " ++ mismatch.message)) := by
  rw [← String.append_assoc, ← String.append_assoc, ← Place.text_along]
  rfl

/--
A report that starts with the place of a root and a path is about
what is found there.
-/
theorem report_along_root {check : TreeCheck} {failure : CheckFailure}
    (failed : tree.check check = .error failure) {position : Nat} {path : List Nat}
    {told : String}
    (report :
      failure.message = "root" ++ bracketed (position :: path) ++ ": " ++ told) :
    ∃ checks root id mismatch,
      check = .root position checks ∧ tree.roots[position]? = some root ∧
        tree.follow root path = some id ∧ told = mismatch.message ∧
          tree.Complains checks path id mismatch := by
  -- The first letter of a report already tells what kind of check it comes from.
  have letter : failure.message.toList.head? = some 'r' := by
    rw [report]
    repeat apply head?_append_of_some
    rfl
  have notTree : failure.message.toList.head? ≠ some 't' := by
    rw [letter]
    decide
  cases check with
  | widgetCount count =>
      rw [WidgetTree.check] at failed
      split at failed
      · cases failed
      · cases failed
        exact absurd (head?_message_of_tree (by simp)) notTree
  | rootCount count =>
      rw [WidgetTree.check] at failed
      split at failed
      · cases failed
      · cases failed
        exact absurd (head?_message_of_tree (by simp)) notTree
  | widget id checks =>
      rcases checkAt_reports failed with ⟨below, _, mismatch, rfl, _, _⟩
      have other :
          (CheckFailure.widget
            ((Place.widget id).along below) mismatch).message.toList.head? =
            some 'w' := by
        rw [message_widget]
        show ("widget" ++ id.shown ++ _).toList.head? = some 'w'
        iterate 2 apply head?_append_of_some
        rfl
      rw [letter] at other
      exact absurd other (by decide)
  | root index checks =>
      rcases check_root_reports failed with ⟨_, rfl⟩ | ⟨root, at_, reports⟩
      · exact absurd (head?_message_of_tree (by simp)) notTree
      · rcases reports with ⟨found, reached, mismatch, rfl, leads, complains⟩
        have same :
            (bracketed (index :: found)).toList ++
              ':' :: ' ' :: mismatch.message.toList =
              (bracketed (position :: path)).toList ++
                ':' :: ' ' :: told.toList := by
          have written :
              ((Place.root index).along found).text ++ ": " ++ mismatch.message =
                "root" ++ bracketed (position :: path) ++ ": " ++ told := report
          rw [Place.text_along_root] at written
          have chars := congrArg String.toList written
          simp only [String.toList_append, List.append_assoc] at chars
          exact List.append_cancel_left chars
        rcases bracketed_append_inj same with ⟨positions, behind⟩
        cases positions
        have saying : told = mismatch.message :=
          String.toList_inj.mp (List.cons.inj behind).2.symm
        exact ⟨checks, root, reached, mismatch, rfl, at_, leads, saying, complains⟩

end WidgetTree

end WidgetTemplate
