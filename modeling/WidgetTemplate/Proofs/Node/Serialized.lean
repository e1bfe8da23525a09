import Mathlib.Data.List.Forall2
import WidgetTemplate.Node.ReadJson
import WidgetTemplate.Proofs.Json.Layout

/-!
# Nodes as JSON values

What a template says is a matter of its JSON value, not of its text.  Here the
node of a value is computed from the value alone, within a number of brackets
that may be open at a time, and every node is the node of its serialized form
exactly if there are enough of them.
-/

namespace WidgetTemplate

/-! ## Maps that are filled with their own entries -/

namespace SortedMap

universe u

variable {α : Type u}

/-- A key behind all others is put at the end. -/
theorem insertEntry_of_forall_lt {key : String} (value : α)
    {entries : List (String × α)} (behind : ∀ entry ∈ entries, entry.1 < key) :
    insertEntry key value entries = entries ++ [(key, value)] := by
  induction entries with
  | nil => rfl
  | cons entry rest induction =>
      rcases entry with ⟨other, held⟩
      have smaller : other < key := behind (other, held) List.mem_cons_self
      have later := induction fun entry member =>
        behind entry (List.mem_cons_of_mem _ member)
      rw [insertEntry, if_neg (String.not_lt.mpr (Std.le_of_lt smaller)),
        if_neg (Std.ne_of_lt smaller).symm, later, List.cons_append]

theorem foldl_insert_entries (map : SortedMap α) (later : List (String × α))
    (ascending : (map.entries ++ later).Pairwise fun left right =>
      left.1 < right.1) :
    (later.foldl (fun map (key, value) => map.insert key value) map).entries =
      map.entries ++ later := by
  induction later generalizing map with
  | nil => simp
  | cons entry later induction =>
      rcases entry with ⟨key, value⟩
      have behind : ∀ entry ∈ map.entries, entry.1 < key := fun entry member =>
        (List.pairwise_append.mp ascending).2.2 entry member (key, value)
          List.mem_cons_self
      have placed :
          (map.insert key value).entries = map.entries ++ [(key, value)] :=
        insertEntry_of_forall_lt value behind
      have all : map.entries ++ (key, value) :: later =
          (map.insert key value).entries ++ later := by
        simp [placed]
      rw [List.foldl_cons, induction _ (all ▸ ascending), ← all]

/-- A map is what its entries leave when they are set one after another. -/
theorem ofList_entries (map : SortedMap α) : ofList map.entries = map := by
  refine SortedMap.ext ?_
  simpa [ofList, empty] using foldl_insert_entries empty map.entries map.ascending

theorem nodup_keys (map : SortedMap α) : (map.entries.map (·.1)).Nodup :=
  List.pairwise_map.mpr (map.ascending.imp fun smaller => Std.ne_of_lt smaller)

end SortedMap

/-! ## Attributes -/

/-- Every item of a list is decoded, in order, or the list is not. -/
theorem mapM_eq_some_iff_forall₂ {α β : Type} {decode : α → Option β}
    {items : List α} {decoded : List β} :
    items.mapM decode = some decoded ↔
      List.Forall₂ (fun item value => decode item = some value) items decoded := by
  induction items generalizing decoded with
  | nil => simp [List.forall₂_nil_left_iff, eq_comm]
  | cons item items induction =>
      simp only [List.mapM_cons, Option.pure_def, Option.bind_eq_bind,
        Option.bind_eq_some_iff, Option.some.injEq, List.forall₂_cons_left_iff,
        ← induction]
      constructor
      · rintro ⟨value, here, values, later, rfl⟩
        exact ⟨value, values, here, later, rfl⟩
      · rintro ⟨value, values, here, later, rfl⟩
        exact ⟨value, here, values, later, rfl⟩

namespace AttributeValue

theorem ofJson?_eq_some_iff {value : Json} {held : AttributeValue} :
    ofJson? value = some held ↔ value = held.toJson := by
  constructor
  · intro read
    unfold ofJson? at read
    split at read
    · cases read
      rfl
    · cases read
      rfl
    · split at read
      · rename_i fits
        cases read
        simp only [fitsInteger, Bool.and_eq_true, decide_eq_true_eq] at fits
        rw [toJson, Int64.toInt_ofInt_of_le (by simpa using fits.1) ?_]
        · rfl
        · have greatest : Int64.maxValue.toInt = 2 ^ 63 - 1 := rfl
          omega
      · cases read
    · cases read
  · rintro rfl
    cases held with
    | bool value => rfl
    | string value => rfl
    | integer value =>
        have fits : fitsInteger value.toInt := by
          simp only [fitsInteger, Bool.and_eq_true, decide_eq_true_eq]
          exact ⟨Int64.minValue_le_toInt value, Int64.toInt_le value⟩
        simp [toJson, ofJson?, Json.integer, fits]

end AttributeValue

namespace Node

open Json

/-- The value of one attribute, with its name. -/
def setting? (member : String × Json) : Option (String × AttributeValue) :=
  (AttributeValue.ofJson? member.2).map (member.1, ·)

/-- Attributes as the members of an object. -/
def settings (attributes : List (String × AttributeValue)) :
    List (String × Json) :=
  attributes.map fun (name, value) => (name, value.toJson)

theorem setting?_eq_some_iff {member : String × Json}
    {setting : String × AttributeValue} :
    setting? member = some setting ↔ member = (setting.1, setting.2.toJson) := by
  rcases member with ⟨name, value⟩
  rcases setting with ⟨other, held⟩
  simp only [setting?, Option.map_eq_some_iff, AttributeValue.ofJson?_eq_some_iff,
    Prod.mk.injEq]
  constructor
  · rintro ⟨_, read, rfl, rfl⟩
    exact ⟨rfl, read⟩
  · rintro ⟨rfl, read⟩
    exact ⟨held, read, rfl, rfl⟩

/-- The members of an object are attributes exactly if every value is one. -/
theorem mapM_setting?_eq_some_iff {members : List (String × Json)}
    {attributes : List (String × AttributeValue)} :
    members.mapM setting? = some attributes ↔ members = settings attributes := by
  rw [mapM_eq_some_iff_forall₂]
  simp only [setting?_eq_some_iff]
  rw [settings, ← List.forall₂_map_right_iff (R := Eq), List.forall₂_eq_eq_eq]

/-- The attributes that an object describes, if one more bracket may be open. -/
def attributesWithin (budget : Nat) : Json → Option Attributes
  | .object members =>
      if budget = 0 then
        none
      else
        (members.mapM setting?).map SortedMap.ofList
  | _ => none

/-! ## Elements and nodes -/

/-- The values that describe the parts of an element. -/
structure ElementValues where
  name : Json
  attributes : Option Json
  body : Option Json

/--
The values of the parts: the members of an object with the names of the parts,
or up to three items of an array.  There is always a name.
-/
def elementValues? : Json → Option ElementValues
  | .object members =>
      (members.lookup "name").map fun name =>
        { name
          attributes := members.lookup "attrs"
          body := members.lookup "body" }
  | .array [name] => some { name, attributes := none, body := none }
  | .array [name, attributes] =>
      some { name, attributes := some attributes, body := none }
  | .array [name, attributes, body] =>
      some { name, attributes := some attributes, body := some body }
  | _ => none

/-- A part that may be missing. -/
def partOr {α : Type} (missing : α) (decode : Json → Option α) :
    Option Json → Option α
  | none => some missing
  | some value => decode value

/-- The element of its parts. -/
def elementOf (budget : Nat) (child : Json → Option Node)
    (values : ElementValues) :
    Option Node := do
  let name ← values.name.string?
  let attributes ← partOr .empty (attributesWithin budget) values.attributes
  let body ← partOr emptyBody child values.body
  return .tag name attributes body

/-- The node of the value behind the key of a form. -/
def formWithin (budget : Nat) (child : Json → Option Node) :
    Schema.Form → Json → Option Node
  | .static, value => value.string?.map .text
  | .multi, .array items =>
      if budget = 0 then
        none
      else
        (items.mapM child).map .sequence
  | .multi, _ => none
  | .tag, value =>
      if budget = 0 then
        none
      else
        (elementValues? value).bind (elementOf (budget - 1) child)

/-- The node of an object with one key. -/
def nodeOver (budget : Nat) (child : Json → Option Node) : Json → Option Node
  | .object [(key, value)] =>
      if budget = 0 then
        none
      else
        (Schema.Form.named? key).bind (formWithin (budget - 1) child · value)
  | _ => none

/-- The node of a value in which at most `budget` brackets are open at a time. -/
def nodeWithin : (budget : Nat) → Json → Option Node
  | 0 => nodeOver 0 fun _ => none
  | 1 => nodeOver 1 fun _ => none
  | budget + 2 => nodeOver (budget + 2) (nodeWithin budget)

/-! ## Serialized nodes -/

mutual

/-- How deep the serialized form of a node nests. -/
def nesting : Node → Nat
  | .text _ => 1
  | .sequence children => 2 + nestingAll children
  | .tag _ _ body => 2 + body.nesting

/-- The greatest nesting of some nodes. -/
def nestingAll : List Node → Nat
  | [] => 0
  | child :: rest => max child.nesting (nestingAll rest)

end

theorem one_le_nesting (node : Node) : 1 ≤ node.nesting := by
  cases node <;> rw [nesting] <;> omega

mutual

theorem nesting_toJson : (node : Node) → node.toJson.nesting = node.nesting
  | .text content => rfl
  | .sequence children => by
      simp only [toJson, Json.nesting, nestingOfMembers, nesting,
        nestingOfItems_toJsonAll children]
      omega
  | .tag name attributes body => by
      have values : nestingOfMembers
          (attributes.entries.map fun (key, value) => (key, value.toJson)) =
            0 := by
        induction attributes.entries with
        | nil => rfl
        | cons entry entries induction =>
            rcases entry with ⟨key, value⟩
            rw [List.map_cons, nestingOfMembers, induction]
            cases value <;> rfl
      have deep := one_le_nesting body
      simp only [toJson, Json.nesting, nestingOfMembers, nesting, values,
        nesting_toJson body]
      omega

theorem nestingOfItems_toJsonAll :
    (children : List Node) → nestingOfItems (toJsonAll children) =
      nestingAll children
  | [] => rfl
  | child :: rest => by
      rw [toJsonAll, nestingOfItems, nestingAll, nesting_toJson child,
        nestingOfItems_toJsonAll rest]

end

/-- The value can be written, and the keys of every object in it are distinct. -/
structure IsSerial (value : Json) : Prop where
  writable : value.Writable
  distinct : value.Distinct

namespace IsSerial

theorem array {items : List Json} (each : ∀ item ∈ items, IsSerial item) :
    IsSerial (.array items) where
  writable :=
    every_array.mpr ⟨trivial, fun item member => (each item member).writable⟩
  distinct :=
    every_array.mpr ⟨trivial, fun item member => (each item member).distinct⟩

theorem object {members : List (String × Json)}
    (distinct : (members.map (·.1)).Nodup)
    (each : ∀ member ∈ members, IsSerial member.2) :
    IsSerial (.object members) where
  writable :=
    every_object.mpr ⟨trivial, fun member listed => (each member listed).writable⟩
  distinct :=
    every_object.mpr ⟨distinct, fun member listed => (each member listed).distinct⟩

theorem attributeValue (value : AttributeValue) : IsSerial value.toJson := by
  cases value <;>
    constructor <;>
      simp [AttributeValue.toJson, integer, Writable, Distinct, Every, Json.parts,
        Spelled, Number.Spelled, KeysDistinct]

theorem string (text : String) : IsSerial (.string text) :=
  attributeValue (.string text)

theorem settings (attributes : Attributes) :
    IsSerial (.object (settings attributes.entries)) := by
  refine object ?_ fun member listed => ?_
  · simpa [Node.settings, Function.comp_def] using attributes.nodup_keys
  · rcases List.mem_map.mp listed with ⟨⟨name, value⟩, -, rfl⟩
    exact attributeValue value

end IsSerial

mutual

theorem isSerial_toJson : (node : Node) → IsSerial node.toJson
  | .text content =>
      .object (by simp) (by simpa using .string content)
  | .sequence children =>
      .object (by simp) (by simpa using .array (isSerial_toJsonAll children))
  | .tag name attributes body => by
      refine .object (by simp) (List.forall_mem_singleton.mpr ?_)
      refine .object (by simp) ?_
      simp only [List.forall_mem_cons, List.not_mem_nil, false_implies,
        implies_true, and_true]
      exact ⟨.string name, .settings attributes, isSerial_toJson body⟩

theorem isSerial_toJsonAll :
    (children : List Node) → ∀ item ∈ toJsonAll children, IsSerial item
  | [], item, member => by simp [toJsonAll] at member
  | child :: rest, item, member => by
      rcases List.mem_cons.mp member with rfl | later
      · exact isSerial_toJson child
      · exact isSerial_toJsonAll rest item later

end

mutual

/-- A node is the node of its serialized form if that does not nest too deep. -/
theorem nodeWithin_toJson :
    (node : Node) → (budget : Nat) →
      nodeWithin budget node.toJson =
        if node.nesting ≤ budget then some node else none
  | .text content, 0 => rfl
  | .text content, 1 => rfl
  | .text content, budget + 2 => by
      simp [toJson, nodeWithin, nodeOver, formWithin, Schema.Form.named?, string?,
        nesting]
  | .sequence children, 0 => by
      simp [toJson, nodeWithin, nodeOver, nesting]
  | .sequence children, 1 => by
      rw [nesting, if_neg (by omega)]
      rfl
  | .sequence children, budget + 2 => by
      have read := mapM_nodeWithin_toJsonAll children budget
      simp only [toJson, nodeWithin, nodeOver, Schema.Form.named?,
        Option.bind_some, formWithin, read, nesting]
      by_cases fits : nestingAll children ≤ budget <;> simp [fits, Nat.add_comm 2]
  | .tag name attributes body, 0 => by
      simp [toJson, nodeWithin, nodeOver, nesting]
  | .tag name attributes body, 1 => by
      rw [nesting, if_neg (by omega)]
      rfl
  | .tag name attributes body, budget + 2 => by
      have entries :=
        mapM_setting?_eq_some_iff.mpr (Eq.refl (settings attributes.entries))
      have deep := one_le_nesting body
      simp only [settings] at entries
      simp only [toJson, nodeWithin, nodeOver, formWithin,
        Schema.Form.named?, nesting]
      simp [elementValues?, elementOf, partOr, attributesWithin, string?,
        SortedMap.lookup_cons, nodeWithin_toJson body budget, entries,
        SortedMap.ofList_entries]
      by_cases fits : body.nesting ≤ budget
      · have room : budget ≠ 0 := by omega
        simp [fits, room, Nat.add_comm 2]
      · simp [fits, Nat.add_comm 2]

theorem mapM_nodeWithin_toJsonAll :
    (children : List Node) → (budget : Nat) →
      (toJsonAll children).mapM (nodeWithin budget) =
        if nestingAll children ≤ budget then some children else none
  | [], budget => by simp [toJsonAll, nestingAll]
  | child :: rest, budget => by
      rw [toJsonAll, List.mapM_cons, nodeWithin_toJson child budget,
        mapM_nodeWithin_toJsonAll rest budget, nestingAll]
      simp only [Nat.max_le]
      by_cases here : child.nesting ≤ budget <;>
        by_cases later : nestingAll rest ≤ budget <;> simp [here, later]

end

end Node

end WidgetTemplate
