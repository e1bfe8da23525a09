import WidgetTemplate.Proofs.WidgetTree.Enumeration

/-!
# The widgets above a widget

Going from a widget to its parent again and again ends at a root, since every
parent has a smaller number.  The search for the toplevel that owns a widget
takes this way, and stops as soon as it meets a toplevel.  As toplevels have no
parent it can only meet one at the end, so a widget is owned exactly if its way
ends at a toplevel.

`Climbs` is the search as a way of steps, without any bound on their number.
That the search ends is that there is such a way from everywhere.
-/

namespace WidgetTemplate

namespace WidgetTree

variable {tree : WidgetTree}

/-! ## Ways to a root -/

/-- The widgets above a widget, outermost first. -/
inductive Above (tree : WidgetTree) : WidgetId → List WidgetId → Prop where
  | root {id : WidgetId} (parentless : tree.parent? id = none) : Above tree id []
  | inner {id parent : WidgetId} {above : List WidgetId}
      (named : tree.parent? id = some parent) (outer : Above tree parent above) :
      Above tree id (above ++ [parent])

theorem WellFormed.parent?_before (formed : tree.WellFormed) {id parent : WidgetId}
    (named : tree.parent? id = some parent) :
    parent.index < id.index ∧ tree.Accepts (some parent) := by
  rcases Option.bind_eq_some_iff.mp named with ⟨widget, found, above⟩
  exact formed.parent_before id widget parent found above

theorem WellFormed.exists_above (formed : tree.WellFormed) (id : WidgetId) :
    ∃ above, tree.Above id above := by
  induction index : id.index using Nat.strongRecOn generalizing id with
  | ind index induction =>
      subst index
      cases named : tree.parent? id with
      | none => exact ⟨[], .root named⟩
      | some parent =>
          have before := (formed.parent?_before named).1
          rcases induction parent.index before parent rfl with ⟨above, outer⟩
          exact ⟨above ++ [parent], .inner named outer⟩

theorem Above.unique {id : WidgetId} {above other : List WidgetId}
    (first : tree.Above id above) (second : tree.Above id other) :
    above = other := by
  induction first generalizing other with
  | root parentless =>
      cases second with
      | root _ => rfl
      | inner named _ =>
          rw [parentless] at named
          cases named
  | inner named _ induction =>
      cases second with
      | root parentless =>
          rw [parentless] at named
          cases named
      | inner also outer =>
          rw [named] at also
          cases also
          rw [induction outer]

/-! ## The search for an owner -/

def IsToplevel (tree : WidgetTree) (id : WidgetId) : Prop :=
  ∃ widget, tree.get? id = some widget ∧ widget.element.category = .toplevel

/--
The search for the toplevel that owns a widget.  It ends at a number that no
widget has, at a toplevel, or at a widget without a parent, and it goes on from
any other widget to the parent.
-/
inductive Climbs (tree : WidgetTree) : WidgetId → Option WidgetId → Prop where
  | missing {id : WidgetId} (absent : tree.get? id = none) : Climbs tree id none
  | arrived {id : WidgetId} {widget : Widget} (found : tree.get? id = some widget)
      (toplevel : widget.element.category = .toplevel) :
      Climbs tree id (some widget.id)
  | stranded {id : WidgetId} {widget : Widget} (found : tree.get? id = some widget)
      (inner : widget.element.category ≠ .toplevel)
        (parentless : widget.parent = none) :
      Climbs tree id none
  | onward {id parent : WidgetId} {widget : Widget} {owner : Option WidgetId}
      (found : tree.get? id = some widget)
      (inner : widget.element.category ≠ .toplevel)
        (named : widget.parent = some parent)
      (later : Climbs tree parent owner) :
      Climbs tree id owner

/-- The bound on a search makes no difference once it is beyond the widget. -/
theorem WellFormed.climb_eq_climb (formed : tree.WellFormed) (steps : Nat) :
    ∀ (more : Nat) (id : WidgetId), id.index < steps → id.index < more →
      tree.climb id steps = tree.climb id more := by
  induction steps with
  | zero =>
      intro more id enough
      exact absurd enough (Nat.not_lt_zero _)
  | succ steps induction =>
      intro more id enough others
      cases more with
      | zero => exact absurd others (Nat.not_lt_zero _)
      | succ more =>
          rw [climb, climb]
          refine Option.bind_congr fun widget found => ?_
          split
          · rfl
          · refine Option.bind_congr fun parent named => ?_
            have before := (formed.parent_before id widget parent found named).1
            apply induction
            · omega
            · omega

/-- One step of the search, free of any bound. -/
theorem WellFormed.toplevelOf?_eq (formed : tree.WellFormed) {id : WidgetId}
    {widget : Widget} (found : tree.get? id = some widget) :
    tree.toplevelOf? id =
      if widget.element.category = .toplevel then some id
      else widget.parent.bind tree.toplevelOf? := by
  rw [toplevelOf?, climb, found, ← formed.numbered id widget found]
  show ite _ _ _ = _
  split
  · rfl
  · refine Option.bind_congr fun parent named => ?_
    have before := (formed.parent_before id widget parent found named).1
    have inside := get?_lt found
    exact formed.climb_eq_climb tree.size (tree.size + 1) parent
      (by omega) (by omega)

theorem toplevelOf?_of_missing {id : WidgetId} (absent : tree.get? id = none) :
    tree.toplevelOf? id = none := by
  rw [toplevelOf?, climb, absent]
  rfl

/-- The search ends from everywhere, in one way only. -/
theorem WellFormed.climbs_iff (formed : tree.WellFormed) {id : WidgetId}
    {owner : Option WidgetId} :
    tree.Climbs id owner ↔ owner = tree.toplevelOf? id := by
  constructor
  · intro climbs
    induction climbs with
    | missing absent => rw [toplevelOf?_of_missing absent]
    | arrived found toplevel =>
        rw [formed.toplevelOf?_eq found, if_pos toplevel,
          formed.numbered _ _ found]
    | stranded found inner parentless =>
        rw [formed.toplevelOf?_eq found, if_neg inner, parentless,
          Option.bind_none]
    | onward found inner named later induction =>
        rw [formed.toplevelOf?_eq found, if_neg inner, named,
          Option.bind_some, induction]
  · rintro rfl
    induction index : id.index using Nat.strongRecOn generalizing id with
    | ind index induction =>
        subst index
        cases found : tree.get? id with
        | none =>
            rw [toplevelOf?_of_missing found]
            exact .missing found
        | some widget =>
            rw [formed.toplevelOf?_eq found]
            by_cases toplevel : widget.element.category = .toplevel
            · have arrived := Climbs.arrived found toplevel
              rw [formed.numbered id widget found] at arrived
              rwa [if_pos toplevel]
            · rw [if_neg toplevel]
              cases named : widget.parent with
              | none => exact .stranded found toplevel named
              | some parent =>
                  have before :=
                    (formed.parent_before id widget parent found named).1
                  exact .onward found toplevel named
                    (induction parent.index before rfl)

/-! ## Owners are outermost -/

/-- A widget that has a parent is no toplevel. -/
theorem WellFormed.not_isToplevel (formed : tree.WellFormed) {id parent : WidgetId}
    (named : tree.parent? id = some parent) :
    ¬ tree.IsToplevel id := by
  rintro ⟨widget, found, toplevel⟩
  have free := formed.toplevel_parent id widget found toplevel
  rw [parent?_of_found found, free] at named
  cases named

theorem WellFormed.mem_roots_of_isToplevel
    (formed : tree.WellFormed) {id : WidgetId} (toplevel : tree.IsToplevel id) :
    id ∈ tree.roots := by
  have present : id.index < tree.size := by
    rcases toplevel with ⟨widget, found, -⟩
    exact get?_lt found
  refine formed.mem_roots_iff.mpr ⟨present, ?_⟩
  rw [Option.eq_none_iff_forall_ne_some]
  intro parent named
  exact formed.not_isToplevel named toplevel

/-- Of a widget and the widgets above it, only the outermost may be a toplevel. -/
theorem WellFormed.outermost_of_isToplevel
    (formed : tree.WellFormed) {id : WidgetId} {above : List WidgetId}
    (stands : tree.Above id above) :
    ∀ other ∈ above ++ [id], tree.IsToplevel other →
      (above ++ [id]).head? = some other := by
  induction stands with
  | root parentless =>
      intro other member _
      rw [List.nil_append, List.mem_singleton] at member
      subst member
      rfl
  | inner named outer induction =>
      intro other member toplevel
      rcases List.mem_append.mp member with within | itself
      · rw [List.head?_append, induction other within toplevel, Option.some_or]
      · rw [List.mem_singleton] at itself
        subst itself
        exact absurd toplevel (formed.not_isToplevel named)

/-- The search finds the outermost widget if it is a toplevel, and else nothing. -/
theorem WellFormed.toplevelOf?_eq_some_iff
    (formed : tree.WellFormed) {id : WidgetId} {above : List WidgetId}
    (stands : tree.Above id above) (root : WidgetId) :
    tree.toplevelOf? id = some root ↔
      (∃ widget, tree.get? id = some widget) ∧
        (above ++ [id]).head? = some root ∧ tree.IsToplevel root := by
  induction stands with
  | @root id parentless =>
      cases found : tree.get? id with
      | none => simp [toplevelOf?_of_missing found]
      | some widget =>
          rw [parent?_of_found found] at parentless
          rw [formed.toplevelOf?_eq found, parentless, Option.bind_none]
          constructor
          · intro owned
            rcases Option.ite_none_right_eq_some.mp owned with ⟨toplevel, same⟩
            cases same
            exact ⟨⟨widget, rfl⟩, rfl, widget, found, toplevel⟩
          · rintro ⟨-, same, above, there, toplevel⟩
            cases same
            rw [found] at there
            cases there
            rw [if_pos toplevel]
  | @inner id parent above named outer induction =>
      have inner := formed.not_isToplevel named
      rcases Option.bind_eq_some_iff.mp named with ⟨widget, found, under⟩
      rcases (formed.parent?_before named).2 with ⟨lower, present, -⟩
      have same :
          (above ++ [parent] ++ [id]).head? = (above ++ [parent]).head? := by
        rw [List.head?_append]
        cases above <;> rfl
      rw [formed.toplevelOf?_eq found,
        if_neg fun toplevel => inner ⟨widget, found, toplevel⟩, under,
        Option.bind_some, induction, same]
      simp [found, present]

end WidgetTree

end WidgetTemplate
