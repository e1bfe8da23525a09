import Mathlib.Algebra.GroupWithZero.Nat
import WidgetTemplate.Compiled

/-!
# Splicing

A sequence of results has a depth, and so has every result that is spliced into
it.  Splicing takes one level off a sequence and leaves a text or widget as it
is, so it never makes the sequence around it deeper than the result was, and
the depth of what is spliced together is the greatest depth of its parts.

The compiler splices flat results only, which keeps its sequences flat.  The
laws hold for results of every depth.
-/

namespace WidgetTemplate

universe u

/--
How many results a result of a shape adds to a sequence that it is spliced into.
-/
def ResultShape.width : ResultShape → Nat
  | .sequence length => length
  | _ => 1

namespace Compiled

variable {η : Type u}

/-! ## Depth -/

theorem depthAll_append (left right : List (Compiled η)) :
    depthAll (left ++ right) = max (depthAll left) (depthAll right) := by
  induction left with
  | nil => rw [List.nil_append, depthAll, Nat.zero_max]
  | cons item rest induction =>
      rw [List.cons_append, depthAll, induction, depthAll, Nat.max_assoc]

theorem depth_sequence_append (left right : List (Compiled η)) :
    (sequence (left ++ right)).depth =
      max (sequence left).depth (sequence right).depth := by
  rw [depth, depthAll_append, depth, depth, Nat.add_max_add_left]

/--
A sequence is one deeper than what it is made of, and a result adds its
own depth to it.
-/
theorem depth_sequence_elements (item : Compiled η) :
    (sequence item.elements).depth = max 1 item.depth := by
  cases item with
  | text content => rfl
  | widget handle => rfl
  | sequence items =>
      show (sequence items).depth = max 1 (sequence items).depth
      rw [depth, Nat.max_eq_right (Nat.le_add_right 1 _)]

theorem one_le_depth_sequence (items : List (Compiled η)) :
    1 ≤ (sequence items).depth := by
  rw [depth]
  exact Nat.le_add_right 1 _

theorem depth_le_of_mem {items : List (Compiled η)} {item : Compiled η}
    (member : item ∈ items) :
    item.depth ≤ depthAll items := by
  rcases List.append_of_mem member with ⟨before, after, rfl⟩
  rw [depthAll_append, depthAll]
  omega

/-! ## Splicing one result after another -/

/--
Splicing makes a sequence as deep as the result that is spliced in, if it
is not so already.
-/
theorem depth_splice (results : List (Compiled η)) (item : Compiled η) :
    (sequence (splice results item)).depth =
      max (sequence results).depth item.depth := by
  rw [splice, depth_sequence_append, depth_sequence_elements, ← Nat.max_assoc,
    Nat.max_eq_left (one_le_depth_sequence results)]

theorem depth_foldl_splice (items results : List (Compiled η)) :
    (sequence (items.foldl splice results)).depth =
      (items.map depth).foldl max (sequence results).depth := by
  induction items generalizing results with
  | nil => rfl
  | cons item rest induction =>
      rw [List.foldl_cons, induction, depth_splice, List.map_cons, List.foldl_cons]

theorem max?_depth (items : List (Compiled η)) :
    (1 :: items.map depth).max? =
      some (sequence (items.foldl splice [])).depth := by
  rw [List.max?_cons', depth_foldl_splice]
  rfl

/-- Flat results are spliced into a flat sequence. -/
theorem depth_of_flat {items : List (Compiled η)}
    (flat : ∀ item ∈ items, item.depth ≤ 1) :
    (sequence (items.foldl splice [])).depth = 1 := by
  have greatest := (List.max?_eq_some_iff.mp (max?_depth items)).1
  rw [List.mem_cons, List.mem_map] at greatest
  rcases greatest with one | ⟨item, member, same⟩
  · exact one
  · apply Nat.le_antisymm
    · rw [← same]
      exact flat item member
    · exact one_le_depth_sequence _

theorem foldl_splice (items results : List (Compiled η)) :
    items.foldl splice results = results ++ items.flatMap elements := by
  induction items generalizing results with
  | nil => rw [List.foldl_nil, List.flatMap_nil, List.append_nil]
  | cons item rest induction =>
      rw [List.foldl_cons, induction, splice, List.append_assoc, List.flatMap_cons]

theorem length_elements (item : Compiled η) :
    item.elements.length = item.shape.width := by
  cases item with
  | text content => rfl
  | widget handle => rfl
  | sequence items => rfl

/-! ## The only item of a sequence -/

/-- A result stands for its only item if it has only one, and else for itself. -/
theorem single_cases (value : Compiled η) :
    (∃ only, value = .sequence [only] ∧ value.single = only) ∨
      value.single = value := by
  unfold single
  split
  · next only => exact Or.inl ⟨only, rfl, rfl⟩
  · exact Or.inr rfl

theorem depth_single_le (value : Compiled η) :
    value.single.depth ≤ value.depth := by
  rcases single_cases value with ⟨only, rfl, same⟩ | same
  · rw [same, depth, depthAll, depthAll, Nat.max_zero]
    exact Nat.le_add_left _ _
  · exact Nat.le_of_eq (congrArg depth same)

/-- An item that is no sequence has no only item of its own. -/
theorem single_of_depth_eq_zero {value : Compiled η} (plain : value.depth = 0) :
    value.single = value := by
  cases value with
  | text content => rfl
  | widget handle => rfl
  | sequence items =>
      exact absurd plain (Nat.ne_of_gt (one_le_depth_sequence items))

theorem single_single {value : Compiled η} (flat : value.depth ≤ 1) :
    value.single.single = value.single := by
  rcases single_cases value with ⟨only, rfl, same⟩ | same
  · rw [depth, depthAll, depthAll, Nat.max_zero] at flat
    rw [same]
    apply single_of_depth_eq_zero
    omega
  · rw [same, same]

/--
The laws of splicing, for results of every depth that are spliced one by one
into a sequence that is empty at first:

- The sequence is as deep as its deepest part, and at least a flat sequence.
- It is as long as its parts together: a sequence counts its items, and a text
  or widget counts as one.
- Its items are those of its parts, in order.
- It is flat if none of its parts is deeper than a flat sequence.
- A result that is taken for its only item is not deeper than before, and if it
  is flat, taking it for its only item again changes nothing.
-/
theorem splice_one_by_one (items : List (Compiled η)) :
    let spliced := items.foldl splice []
    (1 :: items.map depth).max? = some (sequence spliced).depth ∧
      spliced.length = (items.map fun item => item.shape.width).sum ∧
      spliced = items.flatMap elements ∧
      ((∀ item ∈ items, item.depth ≤ 1) →
        (sequence spliced).depth = 1 ∧ ∀ item ∈ spliced, item.depth = 0) ∧
      ∀ value : Compiled η,
        value.single.depth ≤ value.depth ∧
          (value.depth ≤ 1 → value.single.single = value.single) := by
  intro spliced
  have joined : spliced = items.flatMap elements := by
    rw [← List.nil_append (items.flatMap elements)]
    exact foldl_splice items []
  refine ⟨max?_depth items, ?_, joined, ?_, ?_⟩
  · rw [joined, List.length_flatMap]
    simp only [length_elements]
  · intro flat
    have one : (sequence spliced).depth = 1 := depth_of_flat flat
    refine ⟨one, fun item member => ?_⟩
    have below := depth_le_of_mem member
    rw [depth] at one
    omega
  · intro value
    exact ⟨depth_single_le value, single_single⟩

/--
Flat results are spliced into a flat sequence.  For a sequence around a sequence
the bound on the depth is needed: its only item has an only item of its own.
-/
theorem splice_one_by_one_of_flat :
    let items : List (Compiled Nat) :=
      [.text "ok", .sequence [], .sequence [.widget 4, .text "no"]]
    let spliced : List (Compiled Nat) := [.text "ok", .widget 4, .text "no"]
    let alone : Compiled Nat := .sequence [.widget 4]
    items.foldl splice [] = spliced ∧
      (∀ item ∈ items, item.depth ≤ 1) ∧
      (sequence spliced).depth = 1 ∧
      alone.depth ≤ 1 ∧
      alone.single.single = alone.single ∧
      (sequence [alone]).single.single ≠ (sequence [alone]).single := by
  intro items spliced alone
  rcases splice_one_by_one items with ⟨-, -, -, stays, single⟩
  have flat : ∀ item ∈ items, item.depth ≤ 1 := by
    simp [items, depth, depthAll]
  have low : alone.depth ≤ 1 := Nat.le_refl 1
  refine ⟨rfl, flat, (stays flat).1, low, (single alone).2 low, ?_⟩
  intro same
  cases same

end Compiled

end WidgetTemplate
