import WidgetTemplate.Proofs.Assertion.Place
import WidgetTemplate.Proofs.WidgetTree.History
import WidgetTemplate.Proofs.WidgetTree.Identity

/-!
# Checks that pin down an arena

The portrait of an arena consists of checks: how many widgets there are, and
what each of them is built from.  It says how many children a widget has but not
which, and it says nothing of the texts of widgets that are not leaves.  It is
enough all the same: an arena passes the portrait of another one only if it is
the same arena, since every arena that can be built is known from its origins.
-/

namespace WidgetTemplate

/-- Everything that checks on the widget alone can say of it. -/
def Widget.portrait (widget : Widget) : List WidgetCheck :=
  [.element widget.element.name, .category widget.element.category,
    .parent widget.parent,
      .childCount widget.children.length] ++
    if widget.element.category = .leaf then widget.text.toList.map .text else []

/-- What is known of a widget that passes the portrait of another one. -/
structure Widget.Resembles (found expected : Widget) : Prop where
  element : found.element = expected.element
  parent : found.parent = expected.parent
  childCount : found.children.length = expected.children.length
  text :
    expected.element.category = .leaf →
      ∀ text, expected.text = some text → found.text = some text

namespace WidgetTree

variable {tree : WidgetTree}

/-! ## Passing checks -/

theorem expect_eq_ok_iff {place : Place} {condition : Bool} {mismatch : Mismatch} :
    expect place condition mismatch = .ok () ↔ condition = true := by
  cases condition with
  | true => simp [expect]
  | false => simp [expect]

theorem checkWidgetAll_eq_ok_iff {place : Place} {widget : Widget}
    {checks : List WidgetCheck} :
    tree.checkWidgetAll place widget checks = .ok () ↔
      ∀ check ∈ checks, tree.checkWidget place widget check = .ok () := by
  induction checks with
  | nil => simp [checkWidgetAll]
  | cons check rest induction =>
      rw [checkWidgetAll, List.forall_mem_cons]
      cases first : tree.checkWidget place widget check with
      | error failure => simp
      | ok _ => simp [induction]

theorem check_widget_eq_ok_iff {id : WidgetId} {checks : List WidgetCheck} :
    tree.check (.widget id checks) = .ok () ↔
      ∃ widget, tree.get? id = some widget ∧
        ∀ check ∈ checks, tree.checkWidget (.widget id) widget check = .ok () := by
  rw [check, checkAt]
  cases tree.get? id with
  | none => simp
  | some widget => simp [checkWidgetAll_eq_ok_iff]

theorem passes_portrait_iff {place : Place} {found expected : Widget} :
    (∀ check ∈ expected.portrait, tree.checkWidget place found check = .ok ()) ↔
      found.Resembles expected := by
  have labels :
      (∀ check ∈ if expected.element.category = .leaf then
            expected.text.toList.map WidgetCheck.text else [],
          tree.checkWidget place found check = .ok ()) ↔
        (expected.element.category = .leaf →
          ∀ text, expected.text = some text → found.text = some text) := by
    split
    · simp [checkWidget, expect_eq_ok_iff, *]
    · simp [*]
  rw [Widget.portrait, List.forall_mem_append, labels]
  simp only [List.forall_mem_cons, checkWidget, expect_eq_ok_iff, beq_iff_eq]
  constructor
  · rintro ⟨⟨name, -, parent, childCount, -⟩, text⟩
    exact ⟨Element.name_injective name, parent, childCount, text⟩
  · rintro ⟨element, parent, childCount, text⟩
    exact ⟨⟨congrArg _ element, congrArg _ element, parent, childCount, by simp⟩,
      text⟩

/-! ## Portraits of arenas -/

/--
The number of widgets, and everything that checks on each widget alone can say.
-/
def portrait (tree : WidgetTree) : List TreeCheck :=
  .widgetCount tree.size ::
    tree.ids.filterMap fun id =>
      (tree.get? id).map fun widget => .widget id widget.portrait

theorem forall_mem_portrait_iff {holds : TreeCheck → Prop} :
    (∀ check ∈ tree.portrait, holds check) ↔
      holds (.widgetCount tree.size) ∧
        ∀ id widget, tree.get? id = some widget →
          holds (.widget id widget.portrait) := by
  rw [portrait, List.forall_mem_cons]
  refine and_congr_right fun _ => ?_
  constructor
  · intro all id widget found
    apply all
    refine List.mem_filterMap.mpr ⟨id, mem_ids.mpr (get?_lt found), ?_⟩
    rw [found, Option.map_some]
  · intro all check member
    rcases List.mem_filterMap.mp member with ⟨id, -, shown⟩
    rcases Option.map_eq_some_iff.mp shown with ⟨widget, found, rfl⟩
    exact all id widget found

/--
Passing a portrait is to have as many widgets, each of which
resembles its original.
-/
theorem passes_iff_resembles {found expected : WidgetTree} :
    (∀ check ∈ expected.portrait, found.check check = .ok ()) ↔
      found.size = expected.size ∧
        ∀ id original, expected.get? id = some original →
          ∃ widget, found.get? id = some widget ∧ widget.Resembles original := by
  rw [forall_mem_portrait_iff]
  simp only [check_widget_eq_ok_iff, passes_portrait_iff]
  refine and_congr_left fun _ => ?_
  rw [check]
  split
  · simp [*]
  · simp [*]

/--
Only leaves have a text, so a widget that resembles another one has
the same origin.
-/
theorem origin_eq_of_resembles {found expected : WidgetTree}
    (formed : found.WellFormed) (formed' : expected.WellFormed) {id : WidgetId}
    {widget original : Widget} (at_ : found.get? id = some widget)
    (at' : expected.get? id = some original)
    (resembles : widget.Resembles original) :
    widget.origin = original.origin := by
  have text : widget.text = original.text := by
    have labelled := formed.text_iff_leaf id widget at_
    have labelled' := formed'.text_iff_leaf id original at'
    rw [resembles.element] at labelled
    cases label : original.text with
    | none =>
        rw [label] at labelled'
        have unlabelled : ¬ widget.text.isSome := fun some =>
          absurd (labelled'.mpr (labelled.mp some)) (by simp)
        exact Option.not_isSome_iff_eq_none.mp unlabelled
    | some text =>
        exact resembles.text (labelled'.mp (by rw [label]; rfl)) text label
  rw [Widget.origin, Widget.origin, resembles.element, resembles.parent, text]

theorem eq_of_passes_portrait {found expected : WidgetTree}
    (formed : found.WellFormed) (formed' : expected.WellFormed)
    (passes : ∀ check ∈ expected.portrait, found.check check = .ok ()) :
    expected = found := by
  rcases passes_iff_resembles.mp passes with ⟨size, resemble⟩
  apply formed'.eq_of_origins_eq formed
  apply List.ext_getElem?
  intro index
  rw [origins_getElem?, origins_getElem?]
  cases at' : expected.get? ⟨index⟩ with
  | none =>
      have outside : found.get? ⟨index⟩ = none := by
        apply Array.getElem?_eq_none
        rw [show found.widgets.size = expected.size from size]
        exact Array.getElem?_eq_none_iff.mp at'
      rw [outside]
  | some original =>
      rcases resemble ⟨index⟩ original at' with ⟨widget, at_, resembles⟩
      rw [at_, Option.map_some, Option.map_some,
        origin_eq_of_resembles formed formed' at_ at' resembles]

theorem passes_own_portrait (tree : WidgetTree) :
    ∀ check ∈ tree.portrait, tree.check check = .ok () :=
  passes_iff_resembles.mpr ⟨rfl, fun _ original found =>
    ⟨original, found, rfl, rfl, rfl, fun _ _ label => label⟩⟩

theorem passes_portrait_iff_sameArena {found expected : WidgetTree}
    (formed : found.WellFormed) (formed' : expected.WellFormed) :
    (∀ check ∈ expected.portrait, found.check check = .ok ()) ↔
      expected.SameArena found := by
  rw [formed'.sameArena_iff formed]
  constructor
  · exact eq_of_passes_portrait formed formed'
  · rintro rfl
    exact passes_own_portrait expected

/--
Whatever was done to two arenas that were empty at first, the second passes all
checks of the portrait of the first exactly if they are the same arena.

On every tree, a failed check on a root and what is nested in it is reported
with the positions that lead from the roots to a widget, unless there is no such
root.  A report that starts with such positions comes from no other check, and
what it says is wrong with the widget that they lead to, in view of a check that
is made there.
-/
theorem portrait_pins_down_arena (first second : List Operation) :
    let left := empty.performAll first
    let right := empty.performAll second
    ((∀ check ∈ left.portrait, right.check check = .ok ()) ↔
      left.SameArena right) ∧
      (∀ (tree : WidgetTree) position checks failure,
        tree.check (.root position checks) = .error failure →
          (tree.roots.length ≤ position ∧
            failure = .noRoot position tree.roots.length) ∨
            ∃ path, ∃ mismatch : Mismatch,
              failure.message =
                "root" ++ bracketed (position :: path) ++ ": " ++
                    mismatch.message) ∧
        ∀ (tree : WidgetTree) check failure position path told,
          tree.check check = .error failure →
            failure.message =
                "root" ++ bracketed (position :: path) ++ ": " ++ told →
              ∃ checks root id, ∃ mismatch : Mismatch,
                check = .root position checks ∧ tree.roots[position]? = some root ∧
                  tree.follow root path = some id ∧ told = mismatch.message ∧
                    tree.Complains checks path id mismatch := by
  intro left right
  have formed := (Reachable.empty.performAll first).wellFormed
  have formed' := (Reachable.empty.performAll second).wellFormed
  refine ⟨passes_portrait_iff_sameArena formed' formed, ?_, ?_⟩
  · intro tree position checks failure failed
    refine (check_root_reports failed).imp_right ?_
    rintro ⟨root, -, path, reached, mismatch, rfl, -, -⟩
    refine ⟨path, mismatch, ?_⟩
    rw [← Place.text_along_root]
    rfl
  · intro tree check failure position path told failed report
    exact report_along_root failed report

/-- A dialog with a row of two buttons. -/
def twoButtons (first second : String) : List Operation :=
  [.ask (.toplevel .mainDialog), .ask (.container .hbox (some ⟨0⟩)),
    .ask (.leaf .pushButton (some ⟨1⟩) first),
    .ask (.leaf .pushButton (some ⟨1⟩) second)]

/--
Buttons in another order are noticed, and a wrong check on the row
is reported there.
-/
theorem portrait_pins_down_arena_of_buttons :
    let tree := empty.performAll (twoButtons "OK" "Cancel")
    let swapped := empty.performAll (twoButtons "Cancel" "OK")
    let checks : List WidgetCheck := [.child 0 [.element "vbox"]]
    ¬ (∀ check ∈ tree.portrait, swapped.check check = .ok ()) ∧
      (∃ failure, tree.check (.root 0 checks) = .error failure ∧
        failure.message = "root[0][0]: Expected element 'vbox', found 'hbox'") ∧
        tree.follow ⟨0⟩ [0] = some ⟨1⟩ ∧
          ∃ mismatch : Mismatch,
            mismatch.message = "Expected element 'vbox', found 'hbox'" ∧
              tree.Complains checks [0] ⟨1⟩ mismatch := by
  intro tree swapped checks
  rcases portrait_pins_down_arena (twoButtons "OK" "Cancel")
    (twoButtons "Cancel" "OK") with
    ⟨same, -, reports⟩
  have failed :
      (empty.performAll (twoButtons "OK" "Cancel")).check
          (.root 0 [.child 0 [.element "vbox"]]) =
        .error (.widget (.child (.root 0) 0) (.element "vbox" "hbox")) := by
    decide +kernel
  have report :
      (CheckFailure.widget (.child (.root 0) 0) (.element "vbox" "hbox")).message =
        "root[0][0]: Expected element 'vbox', found 'hbox'" := by
    decide +kernel
  have leads : tree.follow ⟨0⟩ [0] = some ⟨1⟩ := by
    decide +kernel
  refine ⟨fun passes => ?_, ⟨_, failed, report⟩, leads, ?_⟩
  · have first : (tree.get? ⟨2⟩).bind (·.text) = some "OK" := by
      decide +kernel
    have second : (swapped.get? ⟨2⟩).bind (·.text) = some "Cancel" := by
      decide +kernel
    rcases Option.bind_eq_some_iff.mp first with ⟨widget, found, label⟩
    rcases Option.bind_eq_some_iff.mp second with ⟨other, found', label'⟩
    have texts := ((same.mp passes).widgets ⟨2⟩ widget other found found').2.2.2
    rw [label, label'] at texts
    exact absurd texts (by decide)
  · rcases reports tree _ _ 0 [0] "Expected element 'vbox', found 'hbox'" failed
        (report.trans (by decide +kernel)) with
      ⟨asked, root, id, mismatch, same, at_, leads', told, complains⟩
    have start : tree.roots[0]? = some ⟨0⟩ := by
      decide +kernel
    cases start.symm.trans at_
    cases leads.symm.trans leads'
    cases same
    exact ⟨mismatch, told.symm, complains⟩

end WidgetTree

end WidgetTemplate
