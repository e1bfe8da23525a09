import WidgetTemplate.Proofs.Json.Parts

/-!
# Layouts of JSON text

The compact and the indented text of a value differ only in the blanks between
its parts.  A `Layout` says which blanks these are, and `Layout.onto` writes a
value in a layout; the two printers are the cases of `Layout.compact` and
`Layout.indented`.  What a reader makes of a value can thus be stated for both
texts at once.

Only values whose numbers are written as JSON demands can be read back; they
are the `Writable` ones.
-/

namespace WidgetTemplate.Json

/-! ## How long a value is -/

mutual

/--
How many steps it takes to pass over a value: one for a value without parts
and for every bracket that opens, and one behind every item or member.
-/
def extent : Json → Nat
  | .array items => 1 + extentOfItems items
  | .object members => 1 + extentOfMembers members
  | _ => 1

def extentOfItems : List Json → Nat
  | [] => 0
  | item :: rest => item.extent + 1 + extentOfItems rest

def extentOfMembers : List (String × Json) → Nat
  | [] => 0
  | (_, value) :: rest => value.extent + 1 + extentOfMembers rest

end

theorem length_le_extentOfItems (items : List Json) :
    items.length ≤ extentOfItems items := by
  induction items with
  | nil => simp
  | cons item rest induction =>
      rw [extentOfItems, List.length_cons]
      omega

theorem length_le_extentOfMembers (members : List (String × Json)) :
    members.length ≤ extentOfMembers members := by
  induction members with
  | nil => simp
  | cons member rest induction =>
      rw [extentOfMembers, List.length_cons]
      omega

/-! ## Layouts -/

/-- The blanks between the parts of JSON text. -/
structure Layout where
  /-- What stands in front of an item, a member or a closing bracket of a level. -/
  lead : Nat → List Char
  /-- What stands behind the colon of a member. -/
  spacing : List Char
  lead_isGap : ∀ level, ∀ char ∈ lead level, isGap char
  spacing_isGap : ∀ char ∈ spacing, isGap char

namespace Layout

/-- No blanks at all. -/
def compact : Layout where
  lead _ := []
  spacing := []
  lead_isGap := by simp
  spacing_isGap := by simp

/-- A line of its own for every part, two blanks deeper at every level. -/
def indented : Layout where
  lead level := '\n' :: List.replicate (2 * level) ' '
  spacing := [' ']
  lead_isGap := by
    intro level char member
    rcases List.mem_cons.mp member with rfl | blank
    · rfl
    · rw [List.eq_of_mem_replicate blank]
      rfl
  spacing_isGap := by simp [isGap]

/-- A comma in front of `rest`, unless what follows comes first. -/
def commaOnto (isFirst : Bool) (rest : List Char) : List Char :=
  if isFirst then rest else ',' :: rest

variable (layout : Layout)

/-- What stands in front of the bracket that closes an array or object. -/
def closeOnto (level : Nat) (isEmpty : Bool) (rest : List Char) : List Char :=
  if isEmpty then rest else layout.lead level ++ rest

mutual

/-- The text of a value that stands at a level, in front of `rest`. -/
def onto (level : Nat) : Json → List Char → List Char
  | .null, rest => wordOnto "null" rest
  | .bool true, rest => wordOnto "true" rest
  | .bool false, rest => wordOnto "false" rest
  | .number value, rest => value.onto rest
  | .string value, rest => stringOnto value rest
  | .array items, rest =>
      '[' :: itemsOnto (level + 1) true items
        (layout.closeOnto level items.isEmpty (']' :: rest))
  | .object members, rest =>
      '\x7b' :: membersOnto (level + 1) true members
        (layout.closeOnto level members.isEmpty ('\x7d' :: rest))

/-- Items, the first of which may come first of all, in front of `rest`. -/
def itemsOnto (level : Nat) : Bool → List Json → List Char → List Char
  | _, [], rest => rest
  | isFirst, item :: items, rest =>
      commaOnto isFirst
        (layout.lead level ++ onto level item (itemsOnto level false items rest))

/-- Members, the first of which may come first of all, in front of `rest`. -/
def membersOnto (level : Nat) : Bool → List (String × Json) → List Char → List Char
  | _, [], rest => rest
  | isFirst, (key, value) :: members, rest =>
      commaOnto isFirst
        (layout.lead level ++
          stringOnto key
            (':' :: (layout.spacing ++
              onto level value (membersOnto level false members rest))))

end

/-! ## The text is long enough -/

theorem length_commaOnto (isFirst : Bool) (rest : List Char) :
    rest.length + 1 = (commaOnto isFirst rest).length +
      if isFirst then 1 else 0 := by
  cases isFirst <;> simp [commaOnto]

theorem length_closeOnto (level : Nat) (isEmpty : Bool) (rest : List Char) :
    rest.length ≤ (layout.closeOnto level isEmpty rest).length := by
  cases isEmpty <;> simp [closeOnto]

mutual

/-- The text of a value has a character for every step that passes over it. -/
theorem extent_le_length (level : Nat) :
    (value : Json) → value.Writable → (rest : List Char) →
      value.extent + rest.length ≤ (layout.onto level value rest).length
  | .null, _, rest => by
      simp [extent, onto, wordOnto]
      omega
  | .bool true, _, rest => by
      simp [extent, onto, wordOnto]
      omega
  | .bool false, _, rest => by
      simp [extent, onto, wordOnto]
      omega
  | .number value, writable, rest => by
      have spelled : value.Spelled := writable.self
      rcases spelled.onto_eq rest with
        ⟨sign, whole, ending, written, -, ⟨nonempty, -⟩, -⟩
      have := List.length_pos_iff.mpr nonempty
      simp only [onto, written, extent, List.length_append]
      omega
  | .string value, _, rest => by
      simp [extent, onto, stringOnto]
      omega
  | .array items, writable, rest => by
      have inside :=
        extentOfItems_le_length (level + 1) items writable.items true
          (layout.closeOnto level items.isEmpty (']' :: rest))
      have closed := layout.length_closeOnto level items.isEmpty (']' :: rest)
      simp only [extent, onto, List.length_cons, if_true] at *
      omega
  | .object members, writable, rest => by
      have inside :=
        extentOfMembers_le_length (level + 1) members writable.members true
          (layout.closeOnto level members.isEmpty ('\x7d' :: rest))
      have closed := layout.length_closeOnto level members.isEmpty ('\x7d' :: rest)
      simp only [extent, onto, List.length_cons, if_true] at *
      omega

theorem extentOfItems_le_length (level : Nat) :
    (items : List Json) → (∀ item ∈ items, item.Writable) → (isFirst : Bool) →
      (rest : List Char) →
        extentOfItems items + rest.length ≤
          (layout.itemsOnto level isFirst items rest).length +
            if isFirst then 1 else 0
  | [], _, isFirst, rest => by simp [extentOfItems, itemsOnto]
  | item :: items, writable, isFirst, rest => by
      have here :=
        extent_le_length level item (writable item List.mem_cons_self)
          (layout.itemsOnto level false items rest)
      have later :=
        extentOfItems_le_length level items
          (fun other member => writable other (List.mem_cons_of_mem _ member))
          false rest
      have comma :=
        length_commaOnto isFirst
          (layout.lead level ++
            layout.onto level item (layout.itemsOnto level false items rest))
      simp only [extentOfItems, itemsOnto, List.length_append,
        Bool.false_eq_true, if_false] at *
      omega

theorem extentOfMembers_le_length (level : Nat) :
    (members : List (String × Json)) → (∀ member ∈ members, member.2.Writable) →
      (isFirst : Bool) → (rest : List Char) →
        extentOfMembers members + rest.length ≤
          (layout.membersOnto level isFirst members rest).length +
            if isFirst then 1 else 0
  | [], _, isFirst, rest => by simp [extentOfMembers, membersOnto]
  | (key, value) :: members, writable, isFirst, rest => by
      have here :=
        extent_le_length level value (writable (key, value) List.mem_cons_self)
          (layout.membersOnto level false members rest)
      have later :=
        extentOfMembers_le_length level members
          (fun other member => writable other (List.mem_cons_of_mem _ member))
          false rest
      have comma :=
        length_commaOnto isFirst
          (layout.lead level ++
            stringOnto key
              (':' :: (layout.spacing ++
                layout.onto level value
                  (layout.membersOnto level false members rest))))
      simp only [extentOfMembers, membersOnto, stringOnto, List.length_append,
        List.length_cons, Bool.false_eq_true, if_false] at *
      omega

end

end Layout

/-! ## The layouts of the two printers -/

mutual

theorem onto_compact (level : Nat) :
    (value : Json) → (rest : List Char) →
      Layout.compact.onto level value rest = compactOnto value rest
  | .null, rest => rfl
  | .bool true, rest => rfl
  | .bool false, rest => rfl
  | .number value, rest => rfl
  | .string value, rest => rfl
  | .array items, rest => by
      rw [Layout.onto, compactOnto]
      cases items with
      | nil => rfl
      | cons item items =>
          rw [itemsOnto_compact (level + 1) (item :: items) (by simp) true]
          rfl
  | .object members, rest => by
      rw [Layout.onto, compactOnto]
      cases members with
      | nil => rfl
      | cons member members =>
          rw [membersOnto_compact (level + 1) (member :: members) (by simp) true]
          rfl

theorem itemsOnto_compact (level : Nat) :
    (items : List Json) → items ≠ [] → (isFirst : Bool) → (rest : List Char) →
      Layout.compact.itemsOnto level isFirst items rest =
        Layout.commaOnto isFirst (compactItems items rest)
  | [item], _, isFirst, rest => by
      rw [Layout.itemsOnto, onto_compact level item]
      rfl
  | item :: next :: items, _, isFirst, rest => by
      rw [Layout.itemsOnto, onto_compact level item,
        itemsOnto_compact level (next :: items) (by simp) false]
      rfl

theorem membersOnto_compact (level : Nat) :
    (members : List (String × Json)) → members ≠ [] → (isFirst : Bool) →
      (rest : List Char) →
        Layout.compact.membersOnto level isFirst members rest =
          Layout.commaOnto isFirst (compactMembers members rest)
  | [(key, value)], _, isFirst, rest => by
      rw [Layout.membersOnto, onto_compact level value]
      rfl
  | (key, value) :: next :: members, _, isFirst, rest => by
      rw [Layout.membersOnto, onto_compact level value,
        membersOnto_compact level (next :: members) (by simp) false]
      rfl

end

theorem lead_indented (level : Nat) (rest : List Char) :
    Layout.indented.lead level ++ rest = lineOnto level rest := by
  simp [Layout.indented, lineOnto]

mutual

theorem onto_indented (level : Nat) :
    (value : Json) → (rest : List Char) →
      Layout.indented.onto level value rest = indentedOnto level value rest
  | .null, rest => rfl
  | .bool true, rest => rfl
  | .bool false, rest => rfl
  | .number value, rest => rfl
  | .string value, rest => rfl
  | .array items, rest => by
      cases items with
      | nil => rfl
      | cons item items =>
          rw [Layout.onto, indentedOnto,
            itemsOnto_indented (level + 1) (item :: items) (by simp) true,
            ← lead_indented]
          rfl
  | .object members, rest => by
      cases members with
      | nil => rfl
      | cons member members =>
          rw [Layout.onto, indentedOnto,
            membersOnto_indented (level + 1) (member :: members) (by simp) true,
            ← lead_indented]
          rfl

theorem itemsOnto_indented (level : Nat) :
    (items : List Json) → items ≠ [] → (isFirst : Bool) → (rest : List Char) →
      Layout.indented.itemsOnto level isFirst items rest =
        Layout.commaOnto isFirst (indentedItems level items rest)
  | [item], _, isFirst, rest => by
      rw [Layout.itemsOnto, onto_indented level item, lead_indented]
      rfl
  | item :: next :: items, _, isFirst, rest => by
      rw [Layout.itemsOnto, onto_indented level item, lead_indented,
        itemsOnto_indented level (next :: items) (by simp) false]
      rfl

theorem membersOnto_indented (level : Nat) :
    (members : List (String × Json)) → members ≠ [] → (isFirst : Bool) →
      (rest : List Char) →
        Layout.indented.membersOnto level isFirst members rest =
          Layout.commaOnto isFirst (indentedMembers level members rest)
  | [(key, value)], _, isFirst, rest => by
      rw [Layout.membersOnto, onto_indented level value, lead_indented]
      rfl
  | (key, value) :: next :: members, _, isFirst, rest => by
      rw [Layout.membersOnto, onto_indented level value, lead_indented,
        membersOnto_indented level (next :: members) (by simp) false]
      rfl

end

/-- The text of a value in a layout. -/
def textIn (layout : Layout) (value : Json) : String :=
  String.ofList (layout.onto 0 value [])

theorem compact_eq_textIn (value : Json) :
    value.compact = value.textIn .compact :=
  congrArg String.ofList (onto_compact 0 value []).symm

theorem indented_eq_textIn (value : Json) :
    value.indented = value.textIn .indented :=
  congrArg String.ofList (onto_indented 0 value []).symm

end WidgetTemplate.Json
