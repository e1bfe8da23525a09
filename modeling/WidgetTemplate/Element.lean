/-!
# Elements a template may name

Every element name belongs to exactly one category.  A toplevel is built
without a parent, a container is built under a parent and becomes the parent
of what is nested in it, and a leaf is built from one piece of text and never
is a parent.

The vocabulary is closed: the three lists of kinds below are all of it, and
`Element.named?` is the only way from a name to an element.
-/

namespace WidgetTemplate

/-- How an element takes part in the construction of a tree. -/
inductive Category where
  | toplevel
  | container
  | leaf
  deriving DecidableEq, Repr, Inhabited

/-- The word a category is reported with. -/
def Category.text : Category → String
  | .toplevel => "toplevel"
  | .container => "container"
  | .leaf => "leaf"

/-- Elements that start a tree of their own. -/
inductive ToplevelKind where
  | mainDialog
  | popupDialog
  deriving DecidableEq, Repr, Inhabited

namespace ToplevelKind

/-- All toplevel kinds, in declared order. -/
def all : List ToplevelKind :=
  [.mainDialog, .popupDialog]

/-- The name a template uses for the kind. -/
def name : ToplevelKind → String
  | .mainDialog => "main_dialog"
  | .popupDialog => "popup_dialog"

/-- The kind's name as one capitalised word. -/
def label : ToplevelKind → String
  | .mainDialog => "MainDialog"
  | .popupDialog => "PopupDialog"

end ToplevelKind

/-- Elements that arrange others. -/
inductive ContainerKind where
  | vbox
  | hbox
  deriving DecidableEq, Repr, Inhabited

namespace ContainerKind

/-- All container kinds, in declared order. -/
def all : List ContainerKind :=
  [.vbox, .hbox]

/-- The name a template uses for the kind. -/
def name : ContainerKind → String
  | .vbox => "vbox"
  | .hbox => "hbox"

/-- The kind's name as one capitalised word. -/
def label : ContainerKind → String
  | .vbox => "VBox"
  | .hbox => "HBox"

end ContainerKind

/-- Elements that show one text. -/
inductive LeafKind where
  | pushButton
  | inputField
  deriving DecidableEq, Repr, Inhabited

namespace LeafKind

/-- All leaf kinds, in declared order. -/
def all : List LeafKind :=
  [.pushButton, .inputField]

/-- The name a template uses for the kind. -/
def name : LeafKind → String
  | .pushButton => "push_button"
  | .inputField => "input_field"

/-- The kind's name as one capitalised word. -/
def label : LeafKind → String
  | .pushButton => "PushButton"
  | .inputField => "InputField"

end LeafKind

/-- An element name that has been classified. -/
inductive Element where
  | toplevel (kind : ToplevelKind)
  | container (kind : ContainerKind)
  | leaf (kind : LeafKind)
  deriving DecidableEq, Repr, Inhabited

namespace Element

/-- The category an element is built by. -/
def category : Element → Category
  | .toplevel _ => .toplevel
  | .container _ => .container
  | .leaf _ => .leaf

/-- The name a template uses for the element. -/
def name : Element → String
  | .toplevel kind => kind.name
  | .container kind => kind.name
  | .leaf kind => kind.name

/-- Category and kind as one word each, the kind in parentheses. -/
def label : Element → String
  | .toplevel kind => "Toplevel(" ++ kind.label ++ ")"
  | .container kind => "Container(" ++ kind.label ++ ")"
  | .leaf kind => "Leaf(" ++ kind.label ++ ")"

/--
All elements in the order in which a name is looked up: toplevels first, then
leaves, then containers.
-/
def all : List Element :=
  ToplevelKind.all.map .toplevel ++
    LeafKind.all.map .leaf ++
    ContainerKind.all.map .container

/-- The element a name stands for; names are compared letter by letter. -/
def named? (name : String) : Option Element :=
  all.find? (·.name == name)

/-- The category of a name, if the name stands for an element. -/
def classify? (name : String) : Option Category :=
  (named? name).map category

@[simp]
theorem named?_name (element : Element) :
    named? element.name = some element := by
  cases element with
  | toplevel kind => cases kind <;> decide
  | container kind => cases kind <;> decide
  | leaf kind => cases kind <;> decide

theorem name_injective {element other : Element}
    (same : element.name = other.name) :
    element = other := by
  apply Option.some.inj
  rw [← named?_name element, same, named?_name]

/--
Names are spelled with small letters and underscores, so no other
sign is in them.
-/
theorem notMem_name (element : Element) {sign : Char}
    (foreign : ¬ (sign.isLower ∨ sign = '_')) :
    sign ∉ element.name.toList := by
  have spelled :
      element.name.toList.all
        (fun char => char.isLower || char == '_') = true := by
    cases element with
    | toplevel kind => cases kind <;> rfl
    | container kind => cases kind <;> rfl
    | leaf kind => cases kind <;> rfl
  intro member
  have letter := List.all_eq_true.mp spelled sign member
  simp only [Bool.or_eq_true, beq_iff_eq] at letter
  exact foreign letter

/-- A name found in the vocabulary is the name of what was found. -/
theorem name_of_named? {name : String} {element : Element}
    (found : named? name = some element) :
    element.name = name := by
  have hit := List.find?_some found
  simpa using hit

/-- A name stands for an element exactly when it is the element's name. -/
theorem named?_eq_some_iff {name : String} {element : Element} :
    named? name = some element ↔ element.name = name :=
  ⟨name_of_named?, fun same => same ▸ named?_name element⟩

end Element

end WidgetTemplate
