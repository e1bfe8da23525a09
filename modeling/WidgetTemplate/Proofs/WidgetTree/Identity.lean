import WidgetTemplate.Proofs.WidgetTree.Growth

/-!
# When two arenas are the same

Two arenas are the same if they have the same widgets, attached in the same
way.  Under the arena invariant it is enough to compare what their widgets were
built from: the children of a widget are the widgets that name it as their
parent, in the order of their numbers, so the origins determine them.
-/

namespace WidgetTemplate

namespace WidgetTree

/-- The arenas have the same widgets, attached in the same way. -/
structure SameArena (left right : WidgetTree) : Prop where
  size : left.size = right.size
  widgets :
    ∀ id first second, left.get? id = some first → right.get? id = some second →
      first.element = second.element ∧ first.parent = second.parent ∧
        first.children = second.children ∧ first.text = second.text

variable {left right : WidgetTree}

/-- Arenas of one size are equal if widgets of one number are. -/
theorem eq_of_get?_eq (size : left.size = right.size)
    (widgets :
      ∀ id first second, left.get? id = some first → right.get? id = some second →
        first = second) :
    left = right := by
  have arrays : left.widgets = right.widgets := by
    refine Array.ext size fun index inside inside' => ?_
    exact widgets ⟨index⟩ _ _ (Array.getElem?_eq_getElem inside)
      (Array.getElem?_eq_getElem inside')
  cases left
  cases right
  cases arrays
  rfl

theorem WellFormed.sameArena_iff (formed : left.WellFormed)
    (formed' : right.WellFormed) :
    SameArena left right ↔ left = right := by
  constructor
  · intro same
    refine eq_of_get?_eq same.size fun id first second found found' => ?_
    rcases same.widgets id first second found found' with
      ⟨element, parent, children, text⟩
    have numbered := formed.numbered id first found
    have numbered' := formed'.numbered id second found'
    exact Widget.eq_of_origin (numbered.trans numbered'.symm)
      (by simp [Widget.origin, element, parent, text]) children
  · rintro rfl
    refine ⟨rfl, fun id first second found found' => ?_⟩
    cases found.symm.trans found'
    exact ⟨rfl, rfl, rfl, rfl⟩

/-- The widgets attached to a widget are known from the origins of all widgets. -/
theorem attachedTo_eq_of_origins_eq (origins : left.origins = right.origins)
    (id : WidgetId) :
    left.attachedTo id = right.attachedTo id := by
  have size : left.size = right.size := by
    rw [← length_origins, origins, length_origins]
  simp only [attachedTo, ids, size, parent?_eq_origins, origins]

/-- A well formed arena is known from its origins. -/
theorem WellFormed.eq_of_origins_eq (formed : left.WellFormed)
    (formed' : right.WellFormed) (origins : left.origins = right.origins) :
    left = right := by
  apply eq_of_get?_eq
  · rw [← length_origins, origins, length_origins]
  · intro id first second found found'
    apply Widget.eq_of_origin
    · rw [formed.numbered id first found, formed'.numbered id second found']
    · have same := congrArg (·[id.index]?) origins
      simp only [origins_getElem?, found, found', Option.map_some,
        Option.some.injEq] at same
      exact same
    · rw [formed.children_eq id first found, formed'.children_eq id second found',
        attachedTo_eq_of_origins_eq origins]

end WidgetTree

end WidgetTemplate
