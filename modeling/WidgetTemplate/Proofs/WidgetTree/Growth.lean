import WidgetTemplate.Proofs.WidgetTree.Arena

/-!
# How an arena grows

Granted requests append their origins to an arena, in order.  Since a well
formed arena is known from its origins, this says everything about the arena
afterwards: which widgets are new, which children and which roots there are,
and that the widgets from before only get children.
-/

namespace WidgetTemplate

/-- A widget is known from its number, its origin and its children. -/
theorem Widget.eq_of_origin
    {left right : Widget}
    (id : left.id = right.id)
    (origin : left.origin = right.origin)
    (children : left.children = right.children) :
    left = right := by
  cases left
  cases right
  simp only [Widget.origin, Origin.mk.injEq] at origin
  rcases origin with ⟨rfl, rfl, rfl⟩
  subst id
  subst children
  rfl

namespace WidgetTree

variable {tree after : WidgetTree}

/-! ## Granted requests -/

/-- A request that is granted was acceptable and attached its widget. -/
theorem ask_ok {request : Request WidgetId} {id : WidgetId}
    (asked : request.ask factory tree = (.ok id, after)) :
    id = ⟨tree.size⟩ ∧
      after = tree.attach request.element request.parent request.text := by
  by_cases accepted : tree.Accepts request.parent
  · rw [ask_of_accepts accepted] at asked
    simp only [Prod.mk.injEq, Except.ok.injEq] at asked
    exact ⟨asked.1.symm, asked.2.symm⟩
  · rcases ask_of_not_accepts accepted with ⟨cause, refused⟩
    rw [refused] at asked
    simp at asked

/-- The number of a widget is the number of widgets before it. -/
def numbering : Numbering factory where
  count := size
  handle := WidgetId.mk
  counted := by
    intro request tree after id asked
    rcases ask_ok asked with ⟨rfl, rfl⟩
    exact ⟨rfl, size_attach _ _ _⟩

/-- Requests lead from a reachable arena to a reachable arena. -/
theorem Reachable.askAll
    {requests : List (Request WidgetId)}
    {result : Except (CompileError ToolkitError) (List WidgetId)}
    (reachable : tree.Reachable)
    (ran :
      (Request.askAll factory requests).runFrom tree = (result, after)) :
    after.Reachable := by
  have reached :
      ((Request.askAll factory requests).runFrom tree).2.Reachable := by
    clear ran
    induction requests generalizing tree with
    | nil => exact reachable
    | cons request rest induction =>
        have next := reachable.ask request
        rw [Request.askAll, Effect.runFrom_bind, Effect.runFrom_request]
        rcases asked : request.ask factory tree with ⟨answer, middle⟩
        rw [asked] at next
        cases answer with
        | error cause => exact next
        | ok id =>
            have reached := induction next
            simp only [Effect.runFrom_bind]
            rcases later :
                (Request.askAll factory rest).runFrom middle with ⟨ending, last⟩
            rw [later] at reached
            cases ending with
            | error error => exact reached
            | ok ids => exact reached
  rw [ran] at reached
  exact reached

/-- Requests append the origins of those that are granted before a refusal. -/
theorem origins_askAll_of_any
    (requests : List (Request WidgetId)) (tree : WidgetTree) :
    ∃ granted, granted <+: requests ∧
      ((Request.askAll factory requests).runFrom tree).2.origins =
        tree.origins ++ granted.map Request.origin := by
  induction requests generalizing tree with
  | nil => exact ⟨[], List.nil_prefix, by simp [Request.askAll]⟩
  | cons request rest induction =>
      rw [Request.askAll, Effect.runFrom_bind, Effect.runFrom_request]
      by_cases accepted : tree.Accepts request.parent
      · rw [ask_of_accepts accepted]
        rcases induction
            (tree.attach request.element request.parent request.text) with
          ⟨granted, begins, grown⟩
        refine ⟨request :: granted, (List.prefix_cons_inj request).mpr begins, ?_⟩
        rw [origins_attach, List.append_assoc] at grown
        rw [List.map_cons, ← List.singleton_append]
        refine Eq.trans ?_ grown
        -- The handles are put together once all requests are made.
        simp only [Effect.runFrom_bind]
        rcases (Request.askAll factory rest).runFrom
            (tree.attach request.element request.parent request.text) with
          ⟨ending, after⟩
        cases ending with
        | error error => rfl
        | ok ids => rfl
      · rcases ask_of_not_accepts accepted with ⟨cause, refused⟩
        rw [refused]
        exact ⟨[], List.nil_prefix, by simp⟩

/-- Granted requests append their origins in order. -/
theorem origins_askAll
    {requests : List (Request WidgetId)} {ids : List WidgetId}
    (ran :
      (Request.askAll factory requests).runFrom tree = (.ok ids, after)) :
    after.origins = tree.origins ++ requests.map Request.origin := by
  rcases origins_askAll_of_any requests tree with ⟨granted, begins, grown⟩
  rw [ran] at grown
  -- Each request that is granted is counted, so none of them is left out.
  have size : after.size = tree.size + requests.length :=
    (numbering.askAll_ok ran).2
  have length : tree.size + granted.length = after.size := by
    rw [← length_origins, ← length_origins, grown, List.length_append,
      List.length_map]
  have all : granted = requests :=
    begins.eq_of_length (Nat.add_left_cancel (length.trans size))
  rw [grown, all]

/-! ## An arena by its origins -/

theorem parent?_eq_origins (id : WidgetId) :
    tree.parent? id = tree.origins[id.index]?.bind Origin.parent := by
  rw [origins_getElem?, parent?]
  cases tree.get? ⟨id.index⟩ with
  | none => rfl
  | some widget => rfl

theorem WellFormed.map_id_widgets (formed : tree.WellFormed) :
    tree.widgets.toList.map Widget.id = tree.ids := by
  refine List.ext_getElem? fun index => ?_
  simp only [ids, List.getElem?_map, Array.getElem?_toList]
  by_cases inside : index < tree.size
  · rcases exists_get? inside with ⟨widget, found⟩
    have there : tree.widgets[index]? = some widget := found
    rw [there, List.getElem?_range inside]
    exact congrArg some (formed.numbered ⟨index⟩ widget found)
  · rw [Array.getElem?_eq_none (Nat.le_of_not_lt inside),
      List.getElem?_eq_none (by simpa using Nat.le_of_not_lt inside)]
    rfl

/-- The roots are the widgets that name no parent, smallest number first. -/
theorem WellFormed.roots_eq (formed : tree.WellFormed) :
    tree.roots = tree.ids.filter fun id => tree.parent? id = none := by
  rw [← formed.map_id_widgets, List.filter_map, roots]
  congr 1
  refine List.filter_congr fun widget member => ?_
  rcases List.mem_iff_getElem.mp member with ⟨index, inside, rfl⟩
  have found : tree.get? ⟨index⟩ = some tree.widgets.toList[index] := by
    simp [get?]
  have numbered := formed.numbered ⟨index⟩ _ found
  simp only [Function.comp_apply, numbered, parent?, found, Option.bind_some]
  cases tree.widgets.toList[index].parent with
  | none => rfl
  | some above => rfl

section Grown

variable {added : List (Origin WidgetId)}
variable (grown : after.origins = tree.origins ++ added)

/-- The numbers of the widgets that come after those of an arena. -/
def idsAfter (tree : WidgetTree) (count : Nat) : List WidgetId :=
  (List.range count).map fun index => ⟨tree.size + index⟩

theorem ascending_idsAfter (tree : WidgetTree) (count : Nat) :
    (tree.idsAfter count).Pairwise
      fun first second => first.index < second.index :=
  List.pairwise_map.mpr <|
    List.pairwise_lt_range.imp fun before => Nat.add_lt_add_left before tree.size

include grown

theorem size_grown : after.size = tree.size + added.length := by
  rw [← length_origins, grown, List.length_append, length_origins]

theorem ids_grown : after.ids = tree.ids ++ tree.idsAfter added.length := by
  simp [ids, idsAfter, size_grown grown, List.range_add, Function.comp_def]

theorem parent?_grown {id : WidgetId} (old : id.index < tree.size) :
    after.parent? id = tree.parent? id := by
  rw [parent?_eq_origins, parent?_eq_origins, grown,
    List.getElem?_append_left (length_origins ▸ old)]

theorem exists_get?_grown {index : Nat} {origin : Origin WidgetId}
    (new : added[index]? = some origin) :
    ∃ widget, after.get? ⟨tree.size + index⟩ = some widget ∧
      widget.origin = origin := by
  have found : after.origins[tree.size + index]? = some origin := by
    rw [grown, List.getElem?_append_right (by simp)]
    simpa using new
  rw [origins_getElem?] at found
  exact Option.map_eq_some_iff.mp found

/-- New widgets are attached after the ones from before. -/
theorem filter_parent?_grown (parent : Option WidgetId) :
    (after.ids.filter fun id => after.parent? id = parent) =
      (tree.ids.filter fun id => tree.parent? id = parent) ++
        (tree.idsAfter added.length).filter
          fun id => after.parent? id = parent := by
  rw [ids_grown grown, List.filter_append]
  congr 1
  refine List.filter_congr fun id member => ?_
  rw [parent?_grown grown (mem_ids.mp member)]

/-- No widget from before gets a new child, except the parent of the whole. -/
theorem filter_idsAfter_of_within {outer : Option WidgetId}
    (within :
      ∀ origin ∈ added, origin.Within (numbering.number tree.size) outer)
    {id : WidgetId} (old : id.index < tree.size) (other : outer ≠ some id) :
    ((tree.idsAfter added.length).filter
      fun new => after.parent? new = some id) = [] := by
  refine List.filter_eq_nil_iff.mpr fun new member => ?_
  rcases List.mem_map.mp member with ⟨index, inside, rfl⟩
  have listed := List.getElem?_eq_getElem (List.mem_range.mp inside)
  rcases exists_get?_grown grown listed with ⟨widget, found, same⟩
  have parent : after.parent? ⟨tree.size + index⟩ = widget.origin.parent :=
    congrArg (Option.bind · Widget.parent) found
  rw [parent, same, decide_eq_true_eq]
  intro named
  rcases within _ (List.getElem_mem _) with free | ⟨above, inner⟩ | whole
  · rw [free] at named
    cases named
  · rw [inner] at named
    have same : (⟨tree.size + above⟩ : WidgetId) = id := Option.some.inj named
    subst same
    exact Nat.not_lt.mpr (Nat.le_add_right tree.size above) old
  · exact other (whole.symm.trans named)

/-- A widget from before only gets children, and these are new. -/
theorem get?_grown
    (formed : tree.WellFormed) (formedAfter : after.WellFormed)
    {id : WidgetId} {widget : Widget}
    (found : tree.get? id = some widget) :
    after.get? id =
      some
        { widget with
          children :=
            widget.children ++
              (tree.idsAfter added.length).filter
                fun new => after.parent? new = some id } := by
  have old := get?_lt found
  have inside : id.index < after.size := by
    rw [size_grown grown]
    exact Nat.lt_add_right added.length old
  rcases exists_get? inside with ⟨kept, there⟩
  have same : kept.origin = widget.origin := by
    have before : tree.origins[id.index]? = some widget.origin := by
      rw [origins_getElem?, found]
      rfl
    have now : after.origins[id.index]? = some kept.origin := by
      rw [origins_getElem?, there]
      rfl
    rw [grown, List.getElem?_append_left (length_origins ▸ old), before] at now
    exact (Option.some.inj now).symm
  rw [there]
  refine congrArg some (Widget.eq_of_origin ?_ same ?_)
  · rw [formedAfter.numbered id kept there, formed.numbered id widget found]
  · rw [formedAfter.children_eq id kept there, formed.children_eq id widget found]
    exact filter_parent?_grown grown (some id)

theorem roots_grown
    (formed : tree.WellFormed) (formedAfter : after.WellFormed) :
    after.roots =
      tree.roots ++
        (tree.idsAfter added.length).filter
          fun id => after.parent? id = none := by
  rw [formed.roots_eq, formedAfter.roots_eq]
  exact filter_parent?_grown grown none

end Grown

end WidgetTree

end WidgetTemplate
