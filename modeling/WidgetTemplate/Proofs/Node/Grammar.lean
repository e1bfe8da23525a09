import WidgetTemplate.Proofs.Node.Serialized

/-!
# The grammar of serialized templates

`Describes value node` says which JSON values are templates and which node each
of them describes.  It follows the wording of the format, not the way a reader
goes: a template is an object with one key, an element has a name and perhaps
attributes and a body, and whatever else an element written as an object holds
does not matter.

Computing the node of a value agrees with the grammar wherever the value does
not nest too deep.
-/

namespace WidgetTemplate.Node

open Json

/--
The attributes of an element: none if there is no value for them, and else the
members of an object, each of which is a boolean, a string, or an integer of 64
bits that is written as one.
-/
inductive DescribesAttributes : Option Json → Attributes → Prop where
  | missing : DescribesAttributes none .empty
  | given (attributes : List (String × AttributeValue)) :
      DescribesAttributes (some (.object (settings attributes)))
        (.ofList attributes)

/-- The value is a template, and the node is what it describes. -/
inductive Describes : Json → Node → Prop where
  | text (content : String) :
      Describes (.object [("static", .string content)]) (.text content)
  | sequence
      {items : List Json}
      {children : List Node}
      (each : List.Forall₂ Describes items children) :
      Describes (.object [("multi", .array items)]) (.sequence children)
  | bareTag
      {value : Json}
      {values : ElementValues}
      {name : String}
      {attributes : Attributes}
      (parts : elementValues? value = some values)
      (named : values.name = .string name)
      (attributed : DescribesAttributes values.attributes attributes)
      (bodiless : values.body = none) :
      Describes (.object [("tag", value)]) (.tag name attributes emptyBody)
  | tag
      {value inner : Json}
      {values : ElementValues}
      {name : String}
      {attributes : Attributes}
      {body : Node}
      (parts : elementValues? value = some values)
      (named : values.name = .string name)
      (attributed : DescribesAttributes values.attributes attributes)
      (bodied : values.body = some inner)
      (describes : Describes inner body) :
      Describes (.object [("tag", value)]) (.tag name attributes body)

/-- The body of an element: the empty one if there is no value for it. -/
def DescribesBody : Option Json → Node → Prop
  | none, body => body = emptyBody
  | some inner, body => Describes inner body

/-! ## What the grammar says of one key -/

section Keys

variable {value : Json} {node : Node}

theorem describes_static_iff :
    Describes (.object [("static", value)]) node ↔
      ∃ content, value = .string content ∧ node = .text content := by
  constructor
  · intro describes
    generalize same : Json.object [("static", value)] = whole at describes
    cases describes with
    | text content =>
        cases same
        exact ⟨content, rfl, rfl⟩
    | sequence | bareTag | tag => simp at same
  · rintro ⟨content, rfl, rfl⟩
    exact .text content

theorem describes_multi_iff :
    Describes (.object [("multi", value)]) node ↔
      ∃ items children, value = .array items ∧
        List.Forall₂ Describes items children ∧ node = .sequence children := by
  constructor
  · intro describes
    generalize same : Json.object [("multi", value)] = whole at describes
    cases describes with
    | sequence each =>
        cases same
        exact ⟨_, _, rfl, each, rfl⟩
    | text | bareTag | tag => simp at same
  · rintro ⟨items, children, rfl, each, rfl⟩
    exact .sequence each

theorem describes_tag_iff :
    Describes (.object [("tag", value)]) node ↔
      ∃ values, elementValues? value = some values ∧
        ∃ name attributes body, values.name = .string name ∧
          DescribesAttributes values.attributes attributes ∧
            DescribesBody values.body body ∧ node = .tag name attributes body := by
  constructor
  · intro describes
    generalize same : Json.object [("tag", value)] = whole at describes
    cases describes with
    | bareTag parts named attributed bodiless =>
        cases same
        exact ⟨_, parts, _, _, _, named, attributed, by rw [bodiless]; rfl, rfl⟩
    | tag parts named attributed bodied describes =>
        cases same
        exact ⟨_, parts, _, _, _, named,
          attributed, by rw [bodied]; exact describes, rfl⟩
    | text | sequence => simp at same
  · rintro ⟨values, parts, name, attributes, body, named, attributed, bodied, rfl⟩
    cases held : values.body with
    | none =>
        rw [held] at bodied
        cases bodied
        exact .bareTag parts named attributed held
    | some inner =>
        rw [held] at bodied
        exact .tag parts named attributed held bodied

end Keys

/-! ## Parts of an element -/

/-- A part of an element does not nest as deep as the element. -/
theorem nesting_lt_of_elementValues? {value inner : Json} {values : ElementValues}
    (parts : elementValues? value = some values)
    (part : values.attributes = some inner ∨ values.body = some inner) :
    inner.nesting < value.nesting := by
  unfold elementValues? at parts
  split at parts
  · rename_i members
    rcases Option.map_eq_some_iff.mp parts with ⟨name, -, rfl⟩
    rw [Json.nesting]
    rcases part with found | found
    · have shallow := nesting_le_of_lookup found
      omega
    · have shallow := nesting_le_of_lookup found
      omega
  · cases parts
    simp at part
  · cases parts
    simp only [Option.some.injEq, reduceCtorEq, or_false] at part
    subst part
    simp only [Json.nesting, nestingOfItems]
    omega
  · cases parts
    simp only [Option.some.injEq] at part
    simp only [Json.nesting, nestingOfItems]
    rcases part with rfl | rfl <;> omega
  · cases parts

theorem attributesWithin_eq_some_iff {budget : Nat} {value : Json}
    (shallow : value.nesting ≤ budget) {attributes : Attributes} :
    attributesWithin budget value = some attributes ↔
      DescribesAttributes (some value) attributes := by
  constructor
  · intro read
    unfold attributesWithin at read
    split at read
    · split at read
      · cases read
      · rcases Option.map_eq_some_iff.mp read with ⟨found, members, rfl⟩
        rw [mapM_setting?_eq_some_iff.mp members]
        exact .given found
    · cases read
  · rintro ⟨⟩
    rename_i found
    have room : budget ≠ 0 := by
      rw [Json.nesting] at shallow
      omega
    rw [attributesWithin, if_neg room, mapM_setting?_eq_some_iff.mpr rfl]
    rfl

/-! ## Decoding agrees with the grammar -/

/--
What is decoded two brackets further inside is decoded as the grammar says.
This is what the step from a node to its parents needs.
-/
def Agrees (budget : Nat) (child : Json → Option Node) : Prop :=
  ∀ inner, inner.nesting + 2 ≤ budget →
    ∀ node, child inner = some node ↔ Describes inner node

namespace Agrees

variable {budget : Nat} {child : Json → Option Node}

theorem sequence (agrees : Agrees (budget + 1) child) {items : List Json}
    (shallow : (Json.array items).nesting ≤ budget) {children : List Node} :
    items.mapM child = some children ↔ List.Forall₂ Describes items children := by
  rw [mapM_eq_some_iff_forall₂]
  rw [Json.nesting] at shallow
  have each : ∀ item ∈ items, ∀ node, child item = some node ↔
    Describes item node := by
    intro item member
    have inside := nesting_le_of_mem member
    exact agrees item (by omega)
  clear shallow
  induction items generalizing children with
  | nil => simp [List.forall₂_nil_left_iff]
  | cons item items induction =>
      have later := fun children =>
        @induction children fun other member =>
          each other (List.mem_cons_of_mem item member)
      simp only [List.forall₂_cons_left_iff, later, each item List.mem_cons_self]

theorem element (agrees : Agrees (budget + 2) child) {value : Json}
    (shallow : value.nesting ≤ budget + 1) {values : ElementValues}
    (parts : elementValues? value = some values) {node : Node} :
    elementOf budget child values = some node ↔
      ∃ name attributes body, values.name = .string name ∧
        DescribesAttributes values.attributes attributes ∧
          DescribesBody values.body body ∧ node = .tag name attributes body := by
  have attributed (attributes : Attributes) :
      partOr .empty (attributesWithin budget) values.attributes = some attributes ↔
        DescribesAttributes values.attributes attributes := by
    cases held : values.attributes with
    | none =>
        rw [partOr, Option.some.injEq]
        constructor
        · rintro rfl
          exact .missing
        · rintro ⟨⟩
          rfl
    | some inner =>
        have lower := nesting_lt_of_elementValues? parts (.inl held)
        exact attributesWithin_eq_some_iff (by omega)
  have bodied (body : Node) :
      partOr emptyBody child values.body = some body ↔
        DescribesBody values.body body := by
    cases held : values.body with
    | none => rw [partOr, Option.some.injEq, DescribesBody, eq_comm]
    | some inner =>
        have lower := nesting_lt_of_elementValues? parts (.inr held)
        exact agrees inner (by omega) body
  simp only [elementOf, Option.pure_def, Option.bind_eq_bind,
    Option.bind_eq_some_iff, string?_eq_some_iff, attributed, bodied,
    Option.some.injEq]
  constructor
  · rintro ⟨name, named, attributes, given, body, inner, rfl⟩
    exact ⟨name, attributes, body, named, given, inner, rfl⟩
  · rintro ⟨name, attributes, body, named, given, inner, rfl⟩
    exact ⟨name, named, attributes, given, body, inner, rfl⟩

/-- The value behind a key is decoded as the grammar says of that key. -/
theorem form (agrees : Agrees (budget + 1) child) {key : String} {value : Json}
    (shallow : value.nesting ≤ budget) {node : Node} :
    (Schema.Form.named? key).bind (formWithin budget child · value) = some node ↔
      Describes (.object [(key, value)]) node := by
  unfold Schema.Form.named?
  split
  case h_1 =>
    simp only [Option.bind_some, formWithin, describes_static_iff,
      Option.map_eq_some_iff, string?_eq_some_iff]
    exact exists_congr fun content => and_congr_right fun _ => eq_comm
  case h_2 =>
    rw [Option.bind_some, describes_multi_iff]
    cases value with
    | array items =>
        have room : budget ≠ 0 := by
          rw [Json.nesting] at shallow
          omega
        simp [formWithin, room, agrees.sequence shallow, eq_comm]
    | _ => simp [formWithin]
  case h_3 =>
    rw [Option.bind_some, describes_tag_iff, formWithin]
    cases budget with
    | zero =>
        -- A value that nests no deeper than this is no object and no array.
        have noParts : elementValues? value = none := by
          cases value with
          | array | object =>
              rw [Json.nesting] at shallow
              omega
          | _ => rfl
        simp [noParts]
    | succ budget =>
        rw [if_neg (Nat.succ_ne_zero budget), Option.bind_eq_some_iff]
        exact exists_congr fun values =>
          and_congr_right fun parts => agrees.element shallow parts
  case h_4 noStatic noMulti noTag =>
    constructor
    · rintro ⟨⟩
    · rintro ⟨⟩ <;> contradiction

/-- A value is decoded as the grammar says. -/
theorem node (agrees : Agrees budget child) {value : Json}
    (shallow : value.nesting ≤ budget) {node : Node} :
    nodeOver budget child value = some node ↔ Describes value node := by
  unfold nodeOver
  split
  · simp only [Json.nesting, nestingOfMembers, Nat.max_zero] at shallow
    rcases Nat.exists_eq_succ_of_ne_zero (n := budget) (by omega) with ⟨room, rfl⟩
    rw [if_neg (Nat.succ_ne_zero room)]
    exact form agrees (by omega)
  · rename_i notSingle
    constructor
    · rintro ⟨⟩
    · rintro ⟨⟩ <;> exact absurd rfl (notSingle _ _)

end Agrees

/-- Within a budget, the node of a value is the one that the grammar describes. -/
theorem nodeWithin_eq_some_iff :
    (budget : Nat) → {value : Json} → value.nesting ≤ budget → {node : Node} →
      (nodeWithin budget value = some node ↔ Describes value node)
  -- No node fits inside a node with less than two brackets.
  | 0, _, shallow, _ => Agrees.node (fun _ deep => by omega) shallow
  | 1, _, shallow, _ => Agrees.node (fun _ deep => by omega) shallow
  | budget + 2, _, shallow, _ =>
      Agrees.node
        (fun _ deep _ => nodeWithin_eq_some_iff budget (by omega))
        shallow

end WidgetTemplate.Node
