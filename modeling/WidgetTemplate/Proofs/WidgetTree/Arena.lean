import WidgetTemplate.Proofs.Compile.Numbering
import WidgetTemplate.WidgetTree.Basic

/-!
# The arena invariant

An arena keeps the relation between a widget and its parent twice: every
widget names its parent, and every widget lists its children.  `WellFormed`
says that the two agree, together with the rules of the three categories.  It
holds of every arena that requests can reach, whether they are granted or
refused, which is `Reachable.wellFormed`.

Under the invariant an arena is known from its origins, that is from what each
widget was built from, and granted requests append their origins in order.
-/

namespace WidgetTemplate

/-! ## Widgets and requests -/

def Widget.origin (widget : Widget) : Origin WidgetId where
  element := widget.element
  parent := widget.parent
  text := widget.text

namespace WidgetTree

variable {tree : WidgetTree}

def origins (tree : WidgetTree) : List (Origin WidgetId) :=
  tree.widgets.toList.map Widget.origin

/-- The numbers of all widgets, smallest first. -/
def ids (tree : WidgetTree) : List WidgetId :=
  (List.range tree.size).map WidgetId.mk

/-- The widgets that name a widget as their parent, smallest number first. -/
def attachedTo (tree : WidgetTree) (parent : WidgetId) : List WidgetId :=
  tree.ids.filter fun id => tree.parent? id = some parent

/-- Whether a widget may be built under a parent. -/
def Accepts (tree : WidgetTree) : Option WidgetId → Prop
  | none => True
  | some parent =>
      ∃ widget, tree.get? parent = some widget ∧
        widget.element.category ≠ .leaf

/-- The two copies of the parent relation agree, and the categories are kept. -/
structure WellFormed (tree : WidgetTree) : Prop where
  numbered :
    ∀ id widget, tree.get? id = some widget → widget.id = id
  children_eq :
    ∀ id widget, tree.get? id = some widget →
      widget.children = tree.attachedTo id
  parent_before :
    ∀ id widget parent, tree.get? id = some widget →
      widget.parent = some parent →
        parent.index < id.index ∧ tree.Accepts (some parent)
  text_iff_leaf :
    ∀ id widget, tree.get? id = some widget →
      (widget.text.isSome ↔ widget.element.category = .leaf)
  toplevel_parent :
    ∀ id widget, tree.get? id = some widget →
      widget.element.category = .toplevel → widget.parent = none

/-- The arenas that requests lead to, refused requests included. -/
inductive Reachable : WidgetTree → Prop where
  | empty : Reachable empty
  | ask {tree : WidgetTree} (request : Request WidgetId)
      (before : Reachable tree) :
      Reachable (request.ask factory tree).2

/-! ## Looking at an arena -/

theorem get?_lt {id : WidgetId} {widget : Widget}
    (found : tree.get? id = some widget) :
    id.index < tree.size :=
  (Array.getElem?_eq_some_iff.mp found).1

theorem exists_get? {id : WidgetId} (inside : id.index < tree.size) :
    ∃ widget, tree.get? id = some widget :=
  ⟨_, Array.getElem?_eq_getElem inside⟩

theorem children_of_found {id : WidgetId} {widget : Widget}
    (found : tree.get? id = some widget) :
    tree.children id = widget.children := by
  rw [children, found]
  rfl

theorem parent?_of_found {id : WidgetId} {widget : Widget}
    (found : tree.get? id = some widget) :
    tree.parent? id = widget.parent := by
  rw [parent?, found]
  rfl

theorem origins_getElem? (index : Nat) :
    tree.origins[index]? = (tree.get? ⟨index⟩).map Widget.origin := by
  simp [origins, get?]

@[simp]
theorem length_origins : tree.origins.length = tree.size := by
  simp [origins, size]

@[simp]
theorem mem_ids {id : WidgetId} : id ∈ tree.ids ↔ id.index < tree.size := by
  cases id
  simp [ids]

theorem ascending_ids (tree : WidgetTree) :
    tree.ids.Pairwise fun first second => first.index < second.index :=
  List.pairwise_map.mpr List.pairwise_lt_range

/-! ## Attaching a widget -/

section Attach

variable (element : Element) (parent : Option WidgetId) (text : Option String)

@[simp]
theorem size_attach :
    (tree.attach element parent text).size = tree.size + 1 := by
  cases parent with
  | none => simp [attach, size]
  | some above => simp [attach, size]

/-- The new widget comes last, and only its parent changes. -/
theorem get?_attach
    (below : ∀ above, parent = some above → above.index < tree.size)
    (id : WidgetId) :
    (tree.attach element parent text).get? id =
      if id.index = tree.size then
        some
          { id, element, parent, text
            children := [] }
      else
        (tree.get? id).map fun widget =>
          if parent = some id then
            { widget with children := widget.children ++ [⟨tree.size⟩] }
          else
            widget := by
  rcases id with ⟨index⟩
  by_cases new : index = tree.size
  · subst new
    rw [if_pos rfl]
    cases parent with
    | none =>
        simp [get?, attach, size]
    | some above =>
        have other : above.index ≠ tree.widgets.size :=
          Nat.ne_of_lt (below above rfl)
        simp only [get?, attach, size, Array.getElem?_modify, if_neg other]
        simp
  · rw [if_neg new]
    have old : index ≠ tree.widgets.size := new
    cases parent with
    | none =>
        simp [get?, attach, Array.getElem?_push, old]
    | some above =>
        rcases above with ⟨place⟩
        simp only [get?, attach, Array.getElem?_modify, Array.getElem?_push,
          if_neg old, Option.some.injEq, WidgetId.mk.injEq]
        by_cases same : place = index
        · simp [same]
        · simp [same]

@[simp]
theorem origins_attach :
    (tree.attach element parent text).origins =
      tree.origins ++ [Origin.mk element parent text] := by
  cases parent with
  | none => simp [origins, attach, Widget.origin]
  | some above =>
      refine List.ext_getElem? fun index => ?_
      simp only [origins, attach, List.getElem?_map, Array.getElem?_toList,
        Array.getElem?_modify]
      -- Only the children of the parent change, and no origin tells them.
      have same (found : Option Widget) :
          (found.map fun widget =>
              { widget with children := widget.children ++ [⟨tree.size⟩] }).map
            Widget.origin = found.map Widget.origin := by
        cases found with
        | none => rfl
        | some widget => rfl
      split
      · rw [same, ← Array.getElem?_toList, ← List.getElem?_map]
        simp [Widget.origin]
      · rw [← Array.getElem?_toList, ← List.getElem?_map]
        simp [Widget.origin]

@[simp]
theorem ids_attach :
    (tree.attach element parent text).ids = tree.ids ++ [⟨tree.size⟩] := by
  simp [ids, List.range_succ]

variable {element parent text}

theorem parent?_attach_of_lt
    (below : ∀ above, parent = some above → above.index < tree.size)
    {id : WidgetId} (old : id.index < tree.size) :
    (tree.attach element parent text).parent? id = tree.parent? id := by
  rcases exists_get? old with ⟨widget, found⟩
  simp only [parent?, get?_attach element parent text below,
    if_neg (Nat.ne_of_lt old), found, Option.map_some, Option.bind_some]
  split
  · rfl
  · rfl

theorem parent?_attach_new
    (below : ∀ above, parent = some above → above.index < tree.size) :
    (tree.attach element parent text).parent? ⟨tree.size⟩ = parent := by
  simp [parent?, get?_attach element parent text below]

/-- The new widget is attached, last, to its parent only. -/
theorem attachedTo_attach
    (below : ∀ above, parent = some above → above.index < tree.size)
    (id : WidgetId) :
    (tree.attach element parent text).attachedTo id =
      tree.attachedTo id ++ if parent = some id then [⟨tree.size⟩] else [] := by
  have old :
      tree.ids.filter (fun other =>
          (tree.attach element parent text).parent? other = some id) =
        tree.attachedTo id := by
    refine List.filter_congr fun other member => ?_
    rw [parent?_attach_of_lt below (mem_ids.mp member)]
  simp only [attachedTo, ids_attach, List.filter_append, List.filter_cons,
    List.filter_nil, parent?_attach_new below, decide_eq_true_eq]
  rw [old]
  rfl

theorem Accepts.attach
    (below : ∀ above, parent = some above → above.index < tree.size)
    {place : Option WidgetId} (accepted : tree.Accepts place) :
    (tree.attach element parent text).Accepts place := by
  cases place with
  | none => trivial
  | some id =>
      rcases accepted with ⟨widget, found, open_⟩
      have old := get?_lt found
      simp only [Accepts, get?_attach element parent text below,
        if_neg (Nat.ne_of_lt old), found, Option.map_some,
        Option.some.injEq, exists_eq_left']
      split
      · exact open_
      · exact open_

theorem accepts_attach_new
    (below : ∀ above, parent = some above → above.index < tree.size)
    (open_ : element.category ≠ .leaf) :
    (tree.attach element parent text).Accepts (some ⟨tree.size⟩) := by
  have found := get?_attach element parent text below ⟨tree.size⟩
  rw [if_pos rfl] at found
  exact ⟨_, found, open_⟩

/-- A widget of the arena with a new widget is new, or it was there before. -/
theorem get?_attach_cases
    (below : ∀ above, parent = some above → above.index < tree.size)
    {id : WidgetId} {widget : Widget}
    (found : (tree.attach element parent text).get? id = some widget) :
    (id = ⟨tree.size⟩ ∧
        widget =
          { id, element, parent, text
            children := [] }) ∨
      ∃ before, tree.get? id = some before ∧
        widget =
          { before with
            children :=
              before.children ++
                if parent = some id then [⟨tree.size⟩] else [] } := by
  rw [get?_attach element parent text below] at found
  by_cases new : id.index = tree.size
  · rw [if_pos new] at found
    refine Or.inl ⟨?_, (Option.some.inj found).symm⟩
    cases id
    exact congrArg WidgetId.mk new
  · rw [if_neg new] at found
    rcases Option.map_eq_some_iff.mp found with ⟨before, there, rfl⟩
    refine Or.inr ⟨before, there, ?_⟩
    split
    · rfl
    · simp

end Attach

theorem Accepts.below {parent : Option WidgetId}
    (accepted : tree.Accepts parent) :
    ∀ above, parent = some above → above.index < tree.size := by
  rintro above rfl
  rcases accepted with ⟨widget, found, -⟩
  exact get?_lt found

/-- No widget names a widget that is yet to be built as its parent. -/
theorem WellFormed.attachedTo_new (formed : tree.WellFormed) :
    tree.attachedTo ⟨tree.size⟩ = [] := by
  refine List.filter_eq_nil_iff.mpr fun id member => ?_
  rcases exists_get? (mem_ids.mp member) with ⟨widget, found⟩
  simp only [parent?, found, Option.bind_some, decide_eq_true_eq]
  intro named
  have before := (formed.parent_before id widget ⟨tree.size⟩ found named).1
  have inside := get?_lt found
  exact absurd (Nat.lt_trans before inside) (Nat.lt_irrefl _)

/-- Building a widget under a parent that accepts it keeps the invariant. -/
theorem WellFormed.attach
    {element : Element} {parent : Option WidgetId} {text : Option String}
    (formed : tree.WellFormed) (accepted : tree.Accepts parent)
    (labelled : text.isSome ↔ element.category = .leaf)
    (free : element.category = .toplevel → parent = none) :
    (tree.attach element parent text).WellFormed where
  numbered := by
    intro id widget found
    rcases get?_attach_cases accepted.below found with
      ⟨rfl, rfl⟩ | ⟨before, there, rfl⟩
    · rfl
    · exact formed.numbered id before there
  children_eq := by
    intro id widget found
    rw [attachedTo_attach accepted.below]
    rcases get?_attach_cases accepted.below found with
      ⟨rfl, rfl⟩ | ⟨before, there, rfl⟩
    · have other : parent ≠ some ⟨tree.size⟩ := fun same =>
        Nat.lt_irrefl _ (accepted.below _ same)
      simp [formed.attachedTo_new, other]
    · rw [formed.children_eq id before there]
  parent_before := by
    intro id widget above found named
    rcases get?_attach_cases accepted.below found with
      ⟨rfl, rfl⟩ | ⟨before, there, rfl⟩
    · have named : parent = some above := named
      subst named
      exact ⟨accepted.below above rfl, accepted.attach accepted.below⟩
    · rcases formed.parent_before id before above there named with
        ⟨earlier, open_⟩
      exact ⟨earlier, open_.attach accepted.below⟩
  text_iff_leaf := by
    intro id widget found
    rcases get?_attach_cases accepted.below found with
      ⟨rfl, rfl⟩ | ⟨before, there, rfl⟩
    · exact labelled
    · exact formed.text_iff_leaf id before there
  toplevel_parent := by
    intro id widget found
    rcases get?_attach_cases accepted.below found with
      ⟨rfl, rfl⟩ | ⟨before, there, rfl⟩
    · exact free
    · exact formed.toplevel_parent id before there

/-! ## Requests of an arena -/

theorem refusal?_eq_none_iff (element : Element) (parent : Option WidgetId) :
    parent.bind (tree.refusal? element) = none ↔ tree.Accepts parent := by
  cases parent with
  | none => simp [Accepts]
  | some above =>
      simp only [Option.bind_some, refusal?, Accepts]
      cases tree.get? above with
      | none => simp
      | some widget => simp

theorem ask_eq_insert (request : Request WidgetId) (tree : WidgetTree) :
    request.ask factory tree =
      tree.insert request.element request.parent request.text := by
  cases request with
  | toplevel kind => rfl
  | container kind parent => rfl
  | leaf kind parent text => rfl

/-- A request is granted if its parent accepts a widget. -/
theorem ask_of_accepts {request : Request WidgetId}
    (accepted : tree.Accepts request.parent) :
    request.ask factory tree =
      (.ok ⟨tree.size⟩,
        tree.attach request.element request.parent request.text) := by
  rw [ask_eq_insert, insert, (refusal?_eq_none_iff _ _).mpr accepted]

theorem ask_of_not_accepts {request : Request WidgetId}
    (refused : ¬ tree.Accepts request.parent) :
    ∃ cause, request.ask factory tree = (.error cause, tree) := by
  rw [ask_eq_insert, insert]
  cases refusal : request.parent.bind (tree.refusal? request.element) with
  | none => exact (refused ((refusal?_eq_none_iff _ _).mp refusal)).elim
  | some cause => exact ⟨cause, rfl⟩

theorem wellFormed_empty : WellFormed empty where
  numbered := by simp [get?, empty]
  children_eq := by simp [get?, empty]
  parent_before := by simp [get?, empty]
  text_iff_leaf := by simp [get?, empty]
  toplevel_parent := by simp [get?, empty]

theorem WellFormed.ask (formed : tree.WellFormed) (request : Request WidgetId) :
    (request.ask factory tree).2.WellFormed := by
  by_cases accepted : tree.Accepts request.parent
  · rw [ask_of_accepts accepted]
    refine formed.attach accepted ?_ ?_
    · cases request <;> simp [Request.text, Request.element, Element.category]
    · cases request <;> simp [Request.parent, Request.element, Element.category]
  · rcases ask_of_not_accepts accepted with ⟨cause, refused⟩
    rw [refused]
    exact formed

theorem Reachable.wellFormed (reachable : tree.Reachable) :
    tree.WellFormed := by
  induction reachable with
  | empty => exact wellFormed_empty
  | ask request before formed => exact formed.ask request

end WidgetTree

end WidgetTemplate
