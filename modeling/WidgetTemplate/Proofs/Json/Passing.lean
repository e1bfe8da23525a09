import WidgetTemplate.Proofs.Json.Reading

/-!
# Passing over values

Whatever its layout and however deep it nests, a value that is passed over
leaves exactly the text behind it.

The walk keeps the open brackets and counts its steps.  Passing over a value
takes as many steps as its extent, and one more step passes over each comma
and closing bracket, so that the invariant of the walk is an equation: the
walk at a value is the walk behind it, with that many steps less.
-/

namespace WidgetTemplate.Json

/-! ## Values without parts -/

theorem skipScalar_number {number : Number} (spelled : number.Spelled)
    {rest : List Char} (stops : Stops rest) :
    skipScalar (number.onto rest) = .ok (none, rest) := by
  rcases spelled.onto_eq rest with
    ⟨sign, whole, ending, written, signs, digits, ends⟩
  have passed := skipUnsigned_append digits ends stops
  rw [written]
  simp only [List.mem_cons, List.not_mem_nil, or_false] at signs
  rcases signs with rfl | rfl
  · rcases List.exists_cons_of_ne_nil digits.1 with ⟨first, others, rfl⟩
    have digit := digits.2.1 first List.mem_cons_self
    have other (char : Char) (none : ¬ char.isDigit) : first ≠ char :=
      digit_ne digit none
    simp only [List.cons_append] at passed
    simp [skipScalar, other, digit, passed, Except.map]
  · simp [skipScalar, passed, Except.map]

/-- The value is no array and no object. -/
def IsPlain : Json → Prop
  | .array _ => False
  | .object _ => False
  | _ => True

/-- A value without parts leaves what stands behind it. -/
theorem skipScalar_onto (layout : Layout) (level : Nat) {value : Json}
    (writable : value.Writable) (plain : value.IsPlain)
    {rest : List Char} (stops : Stops rest) :
    skipScalar (layout.onto level value rest) = .ok (none, rest) := by
  cases value with
  | null => rfl
  | bool value => cases value <;> rfl
  | number number =>
      have spelled : number.Spelled := writable.self
      exact skipScalar_number spelled stops
  | string text =>
      simp [Layout.onto, stringOnto_eq, skipScalar, Except.map]
  | array items => exact plain.elim
  | object members => exact plain.elim

/-! ## Single steps of the walk -/

section Steps

variable {step : Char} {steps text inner later behind : List Char}
variable {frames : List Frame} (frame : Frame) {first : Char}

/-- A value without parts takes one step. -/
theorem skipWithin_scalar
    (scalar : skipScalar (skipGaps text) = .ok (none, behind)) :
    skipWithin (step :: steps) .value frames text =
      skipWithin steps .separator frames behind := by
  rw [skipWithin, scalar]
  rfl

/-- An opening bracket with its closing bracket takes one step. -/
theorem skipWithin_empty
    (opens : skipScalar (skipGaps text) = .ok (some frame, inner))
    (closes : skipGaps inner = frame.bracket :: behind) :
    skipWithin (step :: steps) .value frames text =
      skipWithin steps .separator frames behind := by
  rw [skipWithin, opens]
  simp [closes]

/-- An opening bracket with something behind it takes one step. -/
theorem skipWithin_opens
    (opens : skipScalar (skipGaps text) = .ok (some frame, inner))
    (visible : skipGaps inner = first :: later) (goesOn : first ≠ frame.bracket)
    (key : skipKey frame (first :: later) = .ok behind) :
    skipWithin (step :: steps) .value frames text =
      skipWithin steps .value (frame :: frames) behind := by
  rw [skipWithin, opens]
  simp [visible, goesOn, key]

/-- A comma takes one step. -/
theorem skipWithin_comma (comma : skipGaps text = ',' :: later)
    (key : skipKey frame later = .ok behind) :
    skipWithin (step :: steps) .separator (frame :: frames) text =
      skipWithin steps .value (frame :: frames) behind := by
  have other : ',' ≠ frame.bracket := by cases frame <;> decide
  rw [skipWithin, comma]
  simp [other, key]

/-- A closing bracket takes one step. -/
theorem skipWithin_bracket (closes : skipGaps text = frame.bracket :: behind) :
    skipWithin (step :: steps) .separator (frame :: frames) text =
      skipWithin steps .separator frames behind := by
  rw [skipWithin, closes]
  simp

end Steps

/-! ## The walk through nested values -/

section Walk

variable (layout : Layout)

/-- The key of a member is passed over with the colon behind it. -/
theorem skipKey_object (gap : List Char) (blank : ∀ char ∈ gap, isGap char)
    (key : String) (rest : List Char) :
    skipKey .object (gap ++ stringOnto key (':' :: rest)) = .ok rest := by
  have found :
      skipGaps (gap ++ '"' :: bodyOnto key (':' :: rest)) =
        '"' :: bodyOnto key (':' :: rest) := by
    rw [skipGaps_append blank]
    exact skipGaps_cons rfl _
  have colon := skipGaps_cons (rfl : isGap ':' = false) rest
  simp [skipKey, stringOnto_eq, found, colon]

theorem opens_array (level : Nat) {gap : List Char}
    (blank : ∀ char ∈ gap, isGap char) (items : List Json) (rest : List Char) :
    skipScalar (skipGaps (gap ++ layout.onto level (.array items) rest)) =
      .ok (some .list,
        layout.itemsOnto (level + 1) true items
          (layout.closeOnto level items.isEmpty (']' :: rest))) := by
  rw [skipGaps_append blank]
  rfl

theorem opens_object (level : Nat) {gap : List Char}
    (blank : ∀ char ∈ gap, isGap char) (members : List (String × Json))
    (rest : List Char) :
    skipScalar (skipGaps (gap ++ layout.onto level (.object members) rest)) =
      .ok (some .object,
        layout.membersOnto (level + 1) true members
          (layout.closeOnto level members.isEmpty ('\x7d' :: rest))) := by
  rw [skipGaps_append blank]
  rfl

theorem skipGaps_members (level : Nat) (key : String) (value : Json)
    (members : List (String × Json)) (rest : List Char) :
    skipGaps (layout.membersOnto level true ((key, value) :: members) rest) =
      '"' :: bodyOnto key
        (':' :: (layout.spacing ++
          layout.onto level value
            (layout.membersOnto level false members rest))) := by
  rw [Layout.membersOnto, Layout.commaOnto, if_pos rfl,
    skipGaps_append (layout.lead_isGap level), stringOnto_eq]
  exact skipGaps_cons rfl _

theorem skipWithin_plain {value : Json} (writable : value.Writable)
    (plain : value.IsPlain) (level : Nat) {gap rest : List Char}
    (blank : ∀ char ∈ gap, isGap char) (stops : Stops rest)
    (frames : List Frame) (steps : List Char) (enough : 1 ≤ steps.length) :
    skipWithin steps .value frames (gap ++ layout.onto level value rest) =
      skipWithin (steps.drop 1) .separator frames rest := by
  rcases List.exists_cons_of_length_pos enough with ⟨step, steps, rfl⟩
  have passed := skipScalar_onto layout level writable plain stops
  rcases writable.exists_cons layout level rest with
    ⟨char, later, written, visible, -⟩
  refine skipWithin_scalar ?_
  rw [skipGaps_append blank, written, skipGaps_cons visible, ← written]
  exact passed

mutual

/-- The walk at a value is the walk behind it, after as many steps as it takes. -/
theorem skipWithin_onto :
    (value : Json) → value.Writable → (level : Nat) → (gap rest : List Char) →
      (∀ char ∈ gap, isGap char) → Stops rest → (frames : List Frame) →
        (steps : List Char) → value.extent ≤ steps.length →
          skipWithin steps .value frames (gap ++ layout.onto level value rest) =
            skipWithin (steps.drop value.extent) .separator frames rest
  | .array items, writable, level, gap, rest, blank, _, frames, [], enough => by
      simp [extent] at enough
  | .array [], writable, level, gap, rest, blank, _, frames, step :: steps, _ => by
      exact skipWithin_empty .list (opens_array layout level blank [] rest)
        (skipGaps_cons rfl rest)
  | .array (item :: items), writable, level, gap, rest, blank, _, frames,
      step :: steps, enough => by
      have first := writable.items item List.mem_cons_self
      have closes :=
        stops_closeOnto layout level rest false ']' (by simp)
      simp only [extent, extentOfItems, List.length_cons] at enough
      have here :=
        skipWithin_onto item first (level + 1) [] _ (by simp)
          (stops_itemsOnto layout (level + 1) closes items) (.list :: frames) steps
          (by omega)
      have later :=
        skipWithin_itemsOnto items
          (fun other member =>
            writable.items other (List.mem_cons_of_mem _ member))
          level false rest frames (steps.drop item.extent) (by simp; omega)
      rcases first.exists_cons layout (level + 1)
          (layout.itemsOnto (level + 1) false items
            (layout.closeOnto level false (']' :: rest))) with
        ⟨char, after, written, visible, noBracket⟩
      have total :
          (array (item :: items)).extent =
            (item.extent + (extentOfItems items + 1)) + 1 := by
        rw [extent, extentOfItems]
        omega
      rw [total, List.drop_succ_cons, ← List.drop_drop, ← later, ← here,
        List.nil_append, written]
      have seen :
          skipGaps (layout.itemsOnto (level + 1) true (item :: items)
            (layout.closeOnto level false (']' :: rest))) = char :: after := by
        rw [Layout.itemsOnto, Layout.commaOnto, if_pos rfl,
          skipGaps_append (layout.lead_isGap (level + 1)), written]
        exact skipGaps_cons visible after
      have goesOn : char ≠ Frame.list.bracket := by
        rintro rfl
        exact noBracket (by simp [Frame.bracket])
      exact skipWithin_opens .list
        (opens_array layout level blank _ rest) seen goesOn rfl
  | .object _, writable, level, gap, rest, blank, _, frames, [], enough => by
      simp [extent] at enough
  | .object [], writable, level, gap, rest, blank, _, frames,
    step :: steps, _ => by
      exact skipWithin_empty .object (opens_object layout level blank [] rest)
        (skipGaps_cons rfl rest)
  | .object ((key, value) :: members), writable, level, gap, rest,
    blank, _, frames,
      step :: steps, enough => by
      have first : value.Writable :=
        writable.members (key, value) List.mem_cons_self
      have closes :=
        stops_closeOnto layout level rest false '\x7d' (by simp)
      simp only [extent, extentOfMembers, List.length_cons] at enough
      have here :=
        skipWithin_onto value first (level + 1) _ _ layout.spacing_isGap
          (stops_membersOnto layout (level + 1) closes members) (.object :: frames)
          steps (by omega)
      have later :=
        skipWithin_membersOnto members
          (fun other member =>
            writable.members other (List.mem_cons_of_mem _ member))
          level false rest frames (steps.drop value.extent) (by simp; omega)
      have total :
          (object ((key, value) :: members)).extent =
            (value.extent + (extentOfMembers members + 1)) + 1 := by
        rw [extent, extentOfMembers]
        omega
      rw [total, List.drop_succ_cons, ← List.drop_drop, ← later, ← here]
      exact skipWithin_opens .object (opens_object layout level blank _ rest)
        (skipGaps_members layout (level + 1) key value members _) (by decide)
        (skipKey_object [] (by simp) key _)
  | .null, writable, level, _, _, blank, stops, frames, steps, enough =>
      skipWithin_plain layout writable trivial level blank stops
        frames steps enough
  | .bool _, writable, level, _, _, blank, stops, frames, steps, enough =>
      skipWithin_plain layout writable trivial level blank stops
        frames steps enough
  | .number _, writable, level, _, _, blank, stops, frames, steps, enough =>
      skipWithin_plain layout writable trivial level blank stops
        frames steps enough
  | .string _, writable, level, _, _, blank, stops, frames, steps, enough =>
      skipWithin_plain layout writable trivial level blank stops
        frames steps enough

/-- Items behind others, up to and with the closing bracket. -/
theorem skipWithin_itemsOnto :
    (items : List Json) → (∀ item ∈ items, item.Writable) → (level : Nat) →
      (isEmpty : Bool) → (rest : List Char) → (frames : List Frame) →
        (steps : List Char) → extentOfItems items + 1 ≤ steps.length →
          skipWithin steps .separator (.list :: frames)
              (layout.itemsOnto (level + 1) false items
                (layout.closeOnto level isEmpty (']' :: rest))) =
            skipWithin
              (steps.drop (extentOfItems items + 1)) .separator frames rest
  | _, _, level, isEmpty, rest, frames, [], enough => by
      simp at enough
  | [], _, level, isEmpty, rest, frames, step :: steps, _ =>
      skipWithin_bracket .list
        (skipGaps_closeOnto layout level rest isEmpty rfl)
  | item :: items, writable, level, isEmpty, rest, frames,
    step :: steps, enough => by
      have closes :=
        stops_closeOnto layout level rest isEmpty ']' (by simp)
      simp only [extentOfItems, List.length_cons] at enough
      have here :=
        skipWithin_onto item (writable item List.mem_cons_self) (level + 1) _ _
          (layout.lead_isGap (level + 1))
          (stops_itemsOnto layout (level + 1) closes items) (.list :: frames) steps
          (by omega)
      have later :=
        skipWithin_itemsOnto items
          (fun other member => writable other (List.mem_cons_of_mem _ member))
          level isEmpty rest frames (steps.drop item.extent) (by simp; omega)
      have total :
          extentOfItems (item :: items) + 1 =
            (item.extent + (extentOfItems items + 1)) + 1 := by
        rw [extentOfItems]
        omega
      rw [total, List.drop_succ_cons, ← List.drop_drop, ← later, ← here]
      exact skipWithin_comma .list (skipGaps_cons rfl _) rfl

/-- Members behind others, up to and with the closing bracket. -/
theorem skipWithin_membersOnto :
    (members : List (String × Json)) → (∀ member ∈ members, member.2.Writable) →
      (level : Nat) → (isEmpty : Bool) → (rest : List Char) →
        (frames : List Frame) → (steps : List Char) →
          extentOfMembers members + 1 ≤ steps.length →
            skipWithin steps .separator (.object :: frames)
                (layout.membersOnto (level + 1) false members
                  (layout.closeOnto level isEmpty ('\x7d' :: rest))) =
              skipWithin
                (steps.drop (extentOfMembers members + 1)) .separator frames rest
  | _, _, level, isEmpty, rest, frames, [], enough => by
      simp at enough
  | [], _, level, isEmpty, rest, frames, step :: steps, _ =>
      skipWithin_bracket .object
        (skipGaps_closeOnto layout level rest isEmpty rfl)
  | (key, value) :: members, writable, level, isEmpty, rest, frames,
      step :: steps, enough => by
      have closes :=
        stops_closeOnto layout level rest isEmpty '\x7d' (by simp)
      simp only [extentOfMembers, List.length_cons] at enough
      have here :=
        skipWithin_onto value
          (writable (key, value) List.mem_cons_self) (level + 1)
          _ _ layout.spacing_isGap
          (stops_membersOnto layout (level + 1) closes members) (.object :: frames)
          steps (by omega)
      have later :=
        skipWithin_membersOnto members
          (fun other member => writable other (List.mem_cons_of_mem _ member))
          level isEmpty rest frames (steps.drop value.extent) (by simp; omega)
      have total :
          extentOfMembers ((key, value) :: members) + 1 =
            (value.extent + (extentOfMembers members + 1)) + 1 := by
        rw [extentOfMembers]
        omega
      rw [total, List.drop_succ_cons, ← List.drop_drop, ← later, ← here]
      exact skipWithin_comma .object (skipGaps_cons rfl _)
        (skipKey_object _ (layout.lead_isGap (level + 1)) key _)

end

/-- Passing over a value leaves exactly the text behind it. -/
theorem skipValue_onto {value : Json} (writable : value.Writable) (level : Nat)
    {gap rest : List Char} (blank : ∀ char ∈ gap, isGap char)
    (stops : Stops rest) :
    skipValue (gap ++ layout.onto level value rest) = .ok rest := by
  have long := layout.extent_le_length level value writable rest
  rw [skipValue,
    skipWithin_onto layout value writable level gap rest blank stops [] _
      (by simp; omega)]
  have left :
      (' ' :: (gap ++ layout.onto level value rest)).drop value.extent ≠ [] := by
    simp only [ne_eq, List.drop_eq_nil_iff, List.length_cons, List.length_append]
    omega
  rcases List.exists_cons_of_ne_nil left with ⟨step, steps, steps_eq⟩
  rw [steps_eq, skipWithin]
  exact List.cons_ne_nil step steps

end Walk

end WidgetTemplate.Json
