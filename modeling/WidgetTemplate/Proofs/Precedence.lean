/-!
# What is set last counts

A state that is changed step by step, and of which one value is looked at: each
step sets the value or leaves it as it is.  In the end the value is the one
that was set last, and if no step has set it, the one it was at the start.
-/

namespace WidgetTemplate

universe u v w

/--
The value after all steps is the last one that a step has set, or the first one.
-/
theorem foldl_last_set {α : Type u} {σ : Type v} {β : Type w}
    (value : σ → Option β) (sets : α → Option β) {step : σ → α → σ}
    {items : List α}
    (each : ∀ item ∈ items, ∀ state,
      value (step state item) = (sets item).or (value state))
    (state : σ) :
    value (items.foldl step state) =
      (items.filterMap sets).getLast?.or (value state) := by
  induction items generalizing state with
  | nil => rfl
  | cons item rest induction =>
      rw [List.forall_mem_cons] at each
      rw [List.foldl_cons, induction each.2, each.1]
      cases set : sets item with
      | none => rw [List.filterMap_cons_none set, Option.none_or]
      | some held =>
          rw [List.filterMap_cons_some set, List.getLast?_cons]
          cases (rest.filterMap sets).getLast? <;> rfl

end WidgetTemplate
