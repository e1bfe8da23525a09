import WidgetTemplate.Proofs.Json.Lexeme
import WidgetTemplate.SortedMap

/-!
# Parts of JSON values

A property of values that has to hold at any depth is stated for every part of
a value.  Only values whose numbers are written as JSON demands can be read
back; they are the `Writable` ones.
-/

namespace WidgetTemplate.Json

/-! ## The parts of a value -/

mutual

/-- The values inside a value, itself included. -/
def parts : Json → List Json
  | .array items => .array items :: partsOfItems items
  | .object members => .object members :: partsOfMembers members
  | other => [other]

def partsOfItems : List Json → List Json
  | [] => []
  | item :: rest => item.parts ++ partsOfItems rest

def partsOfMembers : List (String × Json) → List Json
  | [] => []
  | (_, value) :: rest => value.parts ++ partsOfMembers rest

end

/-- The value and all values inside it have a property. -/
def Every (holds : Json → Prop) (value : Json) : Prop :=
  ∀ part ∈ value.parts, holds part

section Every

variable {holds : Json → Prop}

theorem Every.self {value : Json} (every : value.Every holds) : holds value := by
  refine every value ?_
  cases value <;> simp [parts]

theorem forall_mem_partsOfItems {items : List Json} :
    (∀ part ∈ partsOfItems items, holds part) ↔
      ∀ item ∈ items, item.Every holds := by
  induction items with
  | nil => simp [partsOfItems]
  | cons item rest induction =>
      simp only [partsOfItems, List.forall_mem_append, induction,
        List.forall_mem_cons, Every]

theorem forall_mem_partsOfMembers {members : List (String × Json)} :
    (∀ part ∈ partsOfMembers members, holds part) ↔
      ∀ member ∈ members, member.2.Every holds := by
  induction members with
  | nil => simp [partsOfMembers]
  | cons member rest induction =>
      simp only [partsOfMembers, List.forall_mem_append, induction,
        List.forall_mem_cons, Every]

theorem every_array {items : List Json} :
    (array items).Every holds ↔
      holds (array items) ∧ ∀ item ∈ items, item.Every holds := by
  simp only [Every, parts, List.forall_mem_cons, forall_mem_partsOfItems]

theorem every_object {members : List (String × Json)} :
    (object members).Every holds ↔
      holds (object members) ∧ ∀ member ∈ members, member.2.Every holds := by
  simp only [Every, parts, List.forall_mem_cons, forall_mem_partsOfMembers]

end Every

/-- If the value is a number, it is written as JSON demands. -/
def Spelled : Json → Prop
  | .number value => value.Spelled
  | _ => True

/-- The value can be written: all numbers in it are written as JSON demands. -/
def Writable (value : Json) : Prop :=
  value.Every Spelled

theorem Writable.items {items : List Json} (writable : (array items).Writable) :
    ∀ item ∈ items, item.Writable :=
  (every_array.mp writable).2

theorem Writable.members {members : List (String × Json)}
    (writable : (object members).Writable) :
    ∀ member ∈ members, member.2.Writable :=
  (every_object.mp writable).2

/-! ## Nesting, keys and strings -/

mutual

/-- How many arrays and objects are open at the deepest place of a value. -/
def nesting : Json → Nat
  | .array items => 1 + nestingOfItems items
  | .object members => 1 + nestingOfMembers members
  | _ => 0

def nestingOfItems : List Json → Nat
  | [] => 0
  | item :: rest => max item.nesting (nestingOfItems rest)

def nestingOfMembers : List (String × Json) → Nat
  | [] => 0
  | (_, value) :: rest => max value.nesting (nestingOfMembers rest)

end

theorem nesting_le_of_mem {item : Json} {items : List Json}
    (member : item ∈ items) :
    item.nesting ≤ nestingOfItems items := by
  induction items with
  | nil => cases member
  | cons other rest induction =>
      rw [nestingOfItems]
      rcases List.mem_cons.mp member with rfl | later
      · exact Nat.le_max_left _ _
      · exact Nat.le_trans (induction later) (Nat.le_max_right _ _)

theorem nesting_le_of_lookup {key : String} {value : Json}
    {members : List (String × Json)} (found : members.lookup key = some value) :
    value.nesting ≤ nestingOfMembers members := by
  induction members with
  | nil => cases found
  | cons member rest induction =>
      rcases member with ⟨other, held⟩
      rw [nestingOfMembers]
      rw [SortedMap.lookup_cons] at found
      split at found
      · cases found
        exact Nat.le_max_left _ _
      · exact Nat.le_trans (induction found) (Nat.le_max_right _ _)

/-- If the value is an object, its keys are distinct. -/
def KeysDistinct : Json → Prop
  | .object members => (members.map (·.1)).Nodup
  | _ => True

/-- The keys of every object in the value are distinct. -/
def Distinct (value : Json) : Prop :=
  value.Every KeysDistinct

theorem Distinct.items {items : List Json} (distinct : (array items).Distinct) :
    ∀ item ∈ items, item.Distinct :=
  (every_array.mp distinct).2

theorem Distinct.members {members : List (String × Json)}
    (distinct : (object members).Distinct) :
    ∀ member ∈ members, member.2.Distinct :=
  (every_object.mp distinct).2

theorem Distinct.keys {members : List (String × Json)}
    (distinct : (object members).Distinct) :
    (members.map (·.1)).Nodup :=
  (every_object.mp distinct).1

/-- The text of a string. -/
def string? : Json → Option String
  | .string text => some text
  | _ => none

theorem string?_eq_some_iff {value : Json} {text : String} :
    value.string? = some text ↔ value = .string text := by
  cases value <;> simp [string?]

end WidgetTemplate.Json
