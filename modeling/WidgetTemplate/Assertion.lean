import WidgetTemplate.LogRecord
import WidgetTemplate.WidgetTree.Basic

/-!
# Assertions on a tree

A check states what a tree or one of its widgets is expected to be.  Checks on
a widget may go on to its children by their positions.  The first check that
fails is reported, with the place of the widget it is about: a root or a
numbered widget, and the positions that lead down from there.
-/

namespace WidgetTemplate

/-- What is expected of a widget. -/
inductive WidgetCheck where
  | element (name : String)
  | category (category : Category)
  | text (text : String)
  | parent (parent : Option WidgetId)
  | childCount (count : Nat)
  /-- Checks on the child at a position. -/
  | child (position : Nat) (checks : List WidgetCheck)
  deriving Inhabited

/-- What is expected of a tree. -/
inductive TreeCheck where
  | widgetCount (count : Nat)
  | rootCount (count : Nat)
  /-- Checks on the root at a position. -/
  | root (position : Nat) (checks : List WidgetCheck)
  /-- Checks on the widget of a number. -/
  | widget (id : WidgetId) (checks : List WidgetCheck)

/-- Where a widget is found. -/
inductive Place where
  | root (position : Nat)
  | widget (id : WidgetId)
  | child (above : Place) (position : Nat)
  deriving DecidableEq, Repr

/-- How reports name a place. -/
def Place.text : Place → String
  | .root position => "root[" ++ toString position ++ "]"
  | .widget id => "widget" ++ id.shown
  | .child above position => above.text ++ "[" ++ toString position ++ "]"

/-- How a widget differs from what is expected of it. -/
inductive Mismatch where
  | noWidget (id : WidgetId)
  | element (expected found : String)
  | category (expected found : Category)
  | text (expected : String) (found : Option String)
  | parent (expected found : Option WidgetId)
  | childCount (expected found : Nat) (names : List String)
  | noChild (position count : Nat)
  deriving DecidableEq, Repr

/-- The report of a widget that is not as expected. -/
def Mismatch.message : Mismatch → String
  | .noWidget id =>
      "No widget with id " ++ id.shown
  | .element expected found =>
      "Expected element '" ++ expected ++ "', found '" ++ found ++ "'"
  | .category expected found =>
      "Expected " ++ expected.text ++ " widget, found " ++ found.text
  | .text expected found =>
      "Expected text '" ++ expected ++ "', found " ++ Text.quotedOption found
  | .parent expected found =>
      "Expected parent " ++ LogRecord.optional WidgetId.label expected ++
        ", found " ++ LogRecord.optional WidgetId.label found
  | .childCount expected found names =>
      "Expected " ++ toString expected ++ " children, found " ++ toString found ++
        ": [" ++ ", ".intercalate names ++ "]"
  | .noChild position count =>
      "Child index " ++ toString position ++ " out of bounds (" ++
        toString count ++ " children)"

/-- Why a check fails. -/
inductive CheckFailure where
  | widgetCount (expected found : Nat)
  | rootCount (expected found : Nat)
  | noRoot (position count : Nat)
  | widget (place : Place) (mismatch : Mismatch)
  deriving DecidableEq, Repr

/-- The report of a failed check. -/
def CheckFailure.message : CheckFailure → String
  | .widgetCount expected found =>
      "tree: Expected " ++ toString expected ++
        " widgets, found " ++ toString found
  | .rootCount expected found =>
      "tree: Expected " ++ toString expected ++ " roots, found " ++ toString found
  | .noRoot position count =>
      "tree: Root index " ++ toString position ++ " out of bounds (" ++
        toString count ++ " roots)"
  | .widget place mismatch =>
      place.text ++ ": " ++ mismatch.message

namespace WidgetTree

/-- The names of the elements attached to a widget. -/
def childNames (tree : WidgetTree) (widget : Widget) : List String :=
  widget.children.filterMap fun id => (tree.get? id).map (·.element.name)

/-- Passes if a condition holds, and else fails with a mismatch at a place. -/
def expect (place : Place) (condition : Bool) (mismatch : Mismatch) :
    Except CheckFailure Unit :=
  if condition then
    .ok ()
  else
    .error (.widget place mismatch)

mutual

/-- Makes one check on a widget. -/
def checkWidget
    (tree : WidgetTree)
    (place : Place)
    (widget : Widget) :
    WidgetCheck → Except CheckFailure Unit
  | .element name =>
      let found := widget.element.name
      expect place (found == name) (.element name found)
  | .category category =>
      let found := widget.element.category
      expect place (found == category) (.category category found)
  | .text text =>
      expect place (widget.text == some text) (.text text widget.text)
  | .parent parent =>
      expect place (widget.parent == parent) (.parent parent widget.parent)
  | .childCount count =>
      let found := widget.children.length
      expect place (found == count)
        (.childCount count found (tree.childNames widget))
  | .child position checks =>
      match widget.children[position]? with
      | none => .error (.widget place (.noChild position widget.children.length))
      | some id =>
          match tree.get? id with
          | none => .error (.widget (.child place position) (.noWidget id))
          | some child => checkWidgetAll tree (.child place position) child checks

/-- Makes checks on a widget until one fails. -/
def checkWidgetAll
    (tree : WidgetTree)
    (place : Place)
    (widget : Widget) :
    List WidgetCheck → Except CheckFailure Unit
  | [] => .ok ()
  | check :: checks =>
      match checkWidget tree place widget check with
      | .error failure => .error failure
      | .ok () => checkWidgetAll tree place widget checks

end

/-- Makes checks on the widget of a number, which was found at a place. -/
def checkAt
    (tree : WidgetTree)
    (place : Place)
    (id : WidgetId)
    (checks : List WidgetCheck) :
    Except CheckFailure Unit :=
  match tree.get? id with
  | none => .error (.widget place (.noWidget id))
  | some widget => checkWidgetAll tree place widget checks

/-- Makes one check on a tree. -/
def check (tree : WidgetTree) : TreeCheck → Except CheckFailure Unit
  | .widgetCount count =>
      if tree.size = count then .ok () else .error (.widgetCount count tree.size)
  | .rootCount count =>
      let found := tree.roots.length
      if found = count then .ok () else .error (.rootCount count found)
  | .root position checks =>
      match tree.roots[position]? with
      | none => .error (.noRoot position tree.roots.length)
      | some id => tree.checkAt (.root position) id checks
  | .widget id checks => tree.checkAt (.widget id) id checks

end WidgetTree

end WidgetTemplate
