import WidgetTemplate.Format.Registry
import WidgetTemplate.Proofs.Json.Unambiguous
import WidgetTemplate.Proofs.WidgetTree.Enumeration
import WidgetTemplate.Proofs.WidgetTree.Identity

/-!
# Nested objects lose nothing

The objects of an arena stand inside each other as its widgets are attached to
each other.  A walk of the value therefore meets one object for every place in
the forest, and by the enumeration of the forest one for every widget.  As each
object carries its widget, and stands in the object of the parent, two arenas
with the same value agree widget by widget.

The text tells as much as the value, since a text is the text of one value.
-/

namespace WidgetTemplate

/-! ## Objects inside a value -/

namespace Json

/-- The value of a key. -/
def member? (key : String) : Json → Option Json
  | .object members => members.lookup key
  | _ => none

/-- An object inside a value, and the object around it if there is one. -/
structure Sighting where
  above : Option Json
  object : Json

mutual

/--
The objects inside a value that stands in an object, each before those in it.
-/
def sightings (above : Option Json) : Json → List Sighting
  | .array items => sightingsOfItems above items
  | .object members =>
      { above, object := .object members } ::
        sightingsOfMembers (some (.object members)) members
  | _ => []

def sightingsOfItems (above : Option Json) : List Json → List Sighting
  | [] => []
  | item :: rest => item.sightings above ++ sightingsOfItems above rest

def sightingsOfMembers (above : Option Json) : List (String × Json) → List Sighting
  | [] => []
  | (_, value) :: rest => value.sightings above ++ sightingsOfMembers above rest

end

end Json

namespace Objects

open Json

/-- The object of a widget, around the objects of the widgets attached to it. -/
def objectOf (widget : Widget) (attached : List Json) : Json :=
  .object
    ([("category", .string widget.element.category.text),
        ("children", .array attached),
        ("element", .string widget.element.name),
        ("id", .natural widget.id.index)] ++
      (widget.text.map fun text => ("text", Json.string text)).toList)

def ofBranch : Branch → Json
  | .node widget attached => objectOf widget (ofBranches attached)

theorem ofBranches_eq_map :
    (branches : List Branch) → ofBranches branches = branches.map ofBranch
  | [] => by rw [ofBranches, List.map_nil]
  | .node widget attached :: rest => by
      rw [ofBranches, ofBranches_eq_map rest, List.map_cons, ofBranch, objectOf]
      cases widget.text <;> simp

/--
The objects inside the objects of branches are the objects of the
branches inside.
-/
theorem sightings_ofBranches (above : Option Branch) :
    (branches : List Branch) →
      sightingsOfItems (above.map ofBranch) (ofBranches branches) =
        (Branch.placed above branches).map fun (above, branch) =>
          { above := above.map ofBranch, object := ofBranch branch }
  | [] => by rw [ofBranches, Branch.placed, List.map_nil, sightingsOfItems]
  | .node widget attached :: rest => by
      have inside := sightings_ofBranches (some (.node widget attached)) attached
      have later := sightings_ofBranches above rest
      have here :
          sightings (above.map ofBranch) (ofBranch (.node widget attached)) =
          { above := above.map ofBranch
            object := ofBranch (.node widget attached) } ::
            sightingsOfItems (some (ofBranch (.node widget attached)))
              (ofBranches attached) := by
        rw [ofBranch, objectOf]
        cases widget.text <;>
          simp [sightings, sightingsOfMembers, natural, integer]
      rw [ofBranches_eq_map, List.map_cons, ← ofBranches_eq_map, sightingsOfItems,
        here, Branch.placed, List.map_cons, List.map_append, ← inside, later]
      rfl

/-! ## What an object tells about its widget -/

/-- The number in an object. -/
def idOf? (object : Json) : Option WidgetId :=
  match object.member? "id" with
  | some (.number (.integer value)) => some ⟨value.toNat⟩
  | _ => none

/-- The object carries what the widget is, and its children in order. -/
structure Shows (object : Json) (widget : Widget) : Prop where
  id : object.member? "id" = some (.natural widget.id.index)
  element : object.member? "element" = some (.string widget.element.name)
  category : object.member? "category" =
    some (.string widget.element.category.text)
  text : object.member? "text" = widget.text.map .string
  children :
    ∃ objects, object.member? "children" = some (.array objects) ∧
      objects.map idOf? = widget.children.map some

@[simp]
theorem idOf?_ofBranch (branch : Branch) :
    idOf? (ofBranch branch) = some branch.id := by
  rcases branch with ⟨widget, attached⟩
  rfl

theorem shows_ofBranch {tree : WidgetTree} :
    {branch : Branch} → branch.Complete tree →
      Shows (ofBranch branch) branch.widget
  | .node widget attached, ⟨_, shown, _⟩ => by
      constructor
      · rfl
      · rfl
      · rfl
      · rw [ofBranch, objectOf, Branch.widget]
        cases widget.text <;> rfl
      · refine ⟨ofBranches attached, rfl, ?_⟩
        rw [ofBranches_eq_map, Branch.widget, ← shown, List.map_map, List.map_map]
        exact List.map_congr_left fun branch _ => idOf?_ofBranch branch

/-! ## Where the objects of an arena are -/

section Arena

variable {tree : WidgetTree}

theorem sightings_value (tree : WidgetTree) :
    (value tree).sightings none =
      (Branch.placed none tree.forest).map fun (above, branch) =>
        { above := above.map ofBranch, object := ofBranch branch } := by
  rw [← sightings_ofBranches]
  rfl

/-- As many objects are in the value as widgets are in the arena. -/
theorem length_sightings_value (formed : tree.WellFormed) :
    ((value tree).sightings none).length = tree.size := by
  have walked := formed.placed_ids_perm.length_eq
  simpa [sightings_value, WidgetTree.ids] using walked

/--
A widget has one object in the value, and the object around it is that of its
parent.
-/
theorem exists_sighting (formed : tree.WellFormed) {id : WidgetId}
    {widget : Widget} (found : tree.get? id = some widget) :
    ∃ sighting,
      ((value tree).sightings none).filter
        (fun other => idOf? other.object = some id) =
          [sighting] ∧
        Shows sighting.object widget ∧
          sighting.above.map idOf? = widget.parent.map some := by
  have once : (((value tree).sightings none).filter
      fun other => idOf? other.object = some id).length = 1 := by
    have met := formed.placed_ids_perm.count_eq id
    rw [tree.nodup_ids.count,
      if_pos (WidgetTree.mem_ids.mpr (WidgetTree.get?_lt found)),
      List.count_eq_countP, List.countP_map] at met
    rw [← List.countP_eq_length_filter, sightings_value, List.countP_map, ← met]
    refine List.countP_congr fun place _ => ?_
    simp
  rcases List.length_eq_one_iff.mp once with ⟨sighting, single⟩
  refine ⟨sighting, single, ?_⟩
  have member : sighting ∈ ((value tree).sightings none).filter
      fun other => idOf? other.object = some id := by
    rw [single]
    exact List.mem_singleton_self sighting
  have ⟨seen, numbered⟩ := List.mem_filter.mp member
  rw [sightings_value] at seen
  rcases List.mem_map.mp seen with ⟨⟨above, branch⟩, listed, rfl⟩
  have ⟨complete, belongs⟩ := formed.forest_placed _ listed
  have same : branch.id = id := by simpa using numbered
  have here : tree.get? id = some branch.widget := same ▸ complete.get?_id
  rw [found, Option.some.injEq] at here
  refine ⟨here ▸ shows_ofBranch complete, ?_⟩
  have parent : widget.parent = above.map Branch.id := by
    rw [← belongs, same, WidgetTree.parent?_of_found found]
  rw [parent]
  cases above <;> simp

/--
An object tells two widgets apart, unless they are attached to different ones.
-/
theorem Shows.eq_of_parent_eq {object : Json} {left right : Widget}
    (showsLeft : Shows object left) (showsRight : Shows object right)
    (parent : left.parent = right.parent) :
    left = right := by
  have id : left.id = right.id := by
    have same := showsLeft.id.symm.trans showsRight.id
    simp only [natural, integer, Option.some.injEq, Json.number.injEq,
      Number.integer.injEq] at same
    exact congrArg WidgetId.mk (Int.ofNat.inj same)
  have element : left.element = right.element := by
    have same := showsLeft.element.symm.trans showsRight.element
    simp only [Option.some.injEq, Json.string.injEq] at same
    exact Element.name_injective same
  have text : left.text = right.text := by
    have same := showsLeft.text.symm.trans showsRight.text
    exact Option.map_inj_right (fun _ _ => Json.string.inj) |>.mp same
  have children : left.children = right.children := by
    rcases showsLeft.children with ⟨objects, listed, ids⟩
    rcases showsRight.children with ⟨others, listed', ids'⟩
    rw [listed] at listed'
    cases listed'
    rw [ids] at ids'
    exact (List.map_inj_right fun _ _ => Option.some.inj).mp ids'
  exact Widget.eq_of_origin id
    (by simp [Widget.origin, element, parent, text]) children

end Arena

section Pair

variable {left right : WidgetTree}

/-- The arena can be rebuilt from its value. -/
theorem eq_of_value_eq (formed : left.WellFormed) (formed' : right.WellFormed)
    (same : value left = value right) : left = right := by
  have size : left.size = right.size := by
    rw [← length_sightings_value formed, same, length_sightings_value formed']
  refine WidgetTree.eq_of_get?_eq size fun id first second found found' => ?_
  -- The one object with this number is the same in both values.
  rcases exists_sighting formed found with ⟨sighting, single, shown, above⟩
  rcases exists_sighting formed' found' with ⟨other, single', shown', above'⟩
  rw [← same, single] at single'
  cases single'
  refine shown.eq_of_parent_eq shown' ?_
  exact (Option.map_inj_right fun _ _ => Option.some.inj).mp
    (above.symm.trans above')

theorem value_eq_iff (formed : left.WellFormed) (formed' : right.WellFormed) :
    value left = value right ↔ WidgetTree.SameArena left right := by
  rw [formed.sameArena_iff formed']
  constructor
  · exact eq_of_value_eq formed formed'
  · rintro rfl
    rfl

end Pair

/-! ## The text of an arena -/

theorem writable_ofBranches :
    (branches : List Branch) → ∀ item ∈ ofBranches branches, item.Writable
  | [], item, member => by simp [ofBranches] at member
  | .node widget attached :: rest, item, member => by
      rw [ofBranches_eq_map, List.map_cons, ← ofBranches_eq_map] at member
      rcases List.mem_cons.mp member with rfl | later
      · have inside : (array (ofBranches attached)).Writable :=
          every_array.mpr ⟨trivial, writable_ofBranches attached⟩
        have strings (text : String) : (string text).Writable := by
          simp [Writable, Every, parts, Spelled]
        have number : (natural widget.id.index).Writable := by
          simp [Writable, Every, parts, Spelled, Number.Spelled, natural, integer]
        refine every_object.mpr ⟨trivial, fun member listed => ?_⟩
        rcases List.mem_append.mp listed with always | labelled
        · simp only [List.mem_cons, List.not_mem_nil, or_false] at always
          rcases always with rfl | rfl | rfl | rfl
          · exact strings _
          · exact inside
          · exact strings _
          · exact number
        · rcases Option.map_eq_some_iff.mp (Option.mem_toList.mp labelled) with
            ⟨text, -, rfl⟩
          exact strings text
      · exact writable_ofBranches rest item later

theorem document_eq_iff {left right : WidgetTree} :
    document left = document right ↔ value left = value right := by
  constructor
  · intro same
    simp only [document, indented_eq_textIn] at same
    have writable (tree : WidgetTree) : (value tree).Writable :=
      every_array.mpr ⟨trivial, writable_ofBranches tree.forest⟩
    exact textIn_injective .indented (writable left) (writable right) same
  · intro same
    rw [document, same, document]

/--
The objects of an arena tell everything about it.  Whatever was done to two
arenas that were empty at first, they have the same value, and the same JSON
text, exactly if they have the same widgets, attached in the same way.  There is
one object for each widget: it carries the widget and stands in the object of
the widget's parent, or at the top if the widget has none.
-/
theorem json_loses_nothing (first second : List WidgetTree.Operation) :
    let left := WidgetTree.empty.performAll first
    let right := WidgetTree.empty.performAll second
    (value left = value right ↔ left.SameArena right) ∧
      (Formatter.json.serialize left = Formatter.json.serialize right ↔
        left.SameArena right) ∧
      ((value left).sightings none).length = left.size ∧
      ∀ id widget, left.get? id = some widget →
        ∃ sighting,
          ((value left).sightings none).filter
                (fun other => idOf? other.object = some id) =
              [sighting] ∧
            Shows sighting.object widget ∧
              sighting.above.map idOf? = widget.parent.map some := by
  intro left right
  have formed := (WidgetTree.Reachable.empty.performAll first).wellFormed
  have formed' := (WidgetTree.Reachable.empty.performAll second).wellFormed
  refine ⟨value_eq_iff formed formed', ?_, length_sightings_value formed, ?_⟩
  · rw [← value_eq_iff formed formed', ← document_eq_iff]
    show Except.ok (document left) = Except.ok (document right) ↔ _
    rw [Except.ok.injEq]
  · intro id widget found
    exact exists_sighting formed found

/-- A button that is built after a second root is written before it. -/
theorem json_loses_nothing_out_of_order :
    let box : WidgetTree.Operation := .ask (.container .vbox none)
    let row : WidgetTree.Operation := .ask (.container .hbox none)
    let button : WidgetTree.Operation := .ask (.leaf .pushButton (some ⟨0⟩) "ok")
    let left := WidgetTree.empty.performAll [box, row, button]
    let right := WidgetTree.empty.performAll [box, button, row]
    value left ≠ value right ∧
      left.get? ⟨2⟩ =
          some
            { id := ⟨2⟩
              element := .leaf .pushButton
              parent := some ⟨0⟩
              children := []
              text := some "ok" } ∧
        ∃ sighting,
          ((value left).sightings none).filter
                (fun other => idOf? other.object = some ⟨2⟩) =
              [sighting] ∧
            sighting.above.map idOf? = some (some ⟨0⟩) := by
  intro box row button left right
  rcases json_loses_nothing [box, row, button] [box, button, row] with
    ⟨same, -, -, objects⟩
  refine ⟨fun equal => ?_, rfl, ?_⟩
  · have different := ((same.mp equal).widgets ⟨1⟩ _ _ rfl rfl).1
    cases different
  · rcases objects ⟨2⟩ _ rfl with ⟨sighting, single, -, above⟩
    exact ⟨sighting, single, above⟩

end Objects

end WidgetTemplate
