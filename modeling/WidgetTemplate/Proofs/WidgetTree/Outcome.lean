import WidgetTemplate.Proofs.WidgetTree.ElementTree

/-!
# How a compile into an arena ends

An arena refuses a request only if the parent is missing or a leaf.  Neither
can happen to a walk: what it keeps open are toplevels and containers that it
built itself.  So a compile under a parent that accepts widgets is never
refused, and whether it succeeds is a matter of the template alone.
-/

namespace WidgetTemplate

namespace WidgetTree

variable {tree : WidgetTree} {outer : Option WidgetId} {base : Nat}

/-! ## Walks that are granted -/

/--
A walk stands in an arena when the arena has counted what the walk has made
and takes widgets under everything that is open.
-/
structure Stands
    (tree : WidgetTree) (base : Nat) (outer : Option WidgetId)
    (walk : Walk WidgetId) : Prop where
  counted : tree.size = base + walk.made
  outermost : tree.Accepts outer
  inside : ∀ id ∈ walk.opened, tree.Accepts (some id)

namespace Stands

variable {walk : Walk WidgetId}

/-- A walk that stands in an arena may build there. -/
theorem accepts_parent (stands : tree.Stands base outer walk) :
    tree.Accepts (walk.parent outer) := by
  rw [Walk.parent]
  cases opened : walk.opened with
  | nil => exact stands.outermost
  | cons id rest =>
      apply stands.inside
      rw [opened]
      exact List.mem_cons_self

/--
A visit without fault leaves a walk standing: in the same arena if it makes
no request, and otherwise in the arena that has granted its request.
-/
theorem advance {visit : Visit}
    (stands : tree.Stands base outer walk)
    (faultless : visit.fault? = none) :
    (walk.request? outer visit = none ∧
        tree.Stands base outer
          (walk.advance (numbering.number base) visit)) ∨
      ∃ request id after, walk.request? outer visit = some request ∧
        request.ask factory tree = (.ok id, after) ∧
        after.Stands base outer
          (walk.advance (numbering.number base) visit) := by
  rcases walk.advance_cases (numbering.number base) outer faultless with
    ⟨silent, made, opened⟩ | ⟨request, asks, under, made, opened⟩
  · refine Or.inl ⟨silent, ?_⟩
    constructor
    · rw [made]
      exact stands.counted
    · exact stands.outermost
    · intro id member
      exact stands.inside id (opened member)
  · have accepted : tree.Accepts request.parent := by
      rcases under with free | inner
      · rw [free]
        trivial
      · rw [inner]
        exact stands.accepts_parent
    refine Or.inr ⟨request, _, _, asks, ask_of_accepts accepted, ?_⟩
    constructor
    · rw [size_attach, made, stands.counted, Nat.add_assoc]
    · exact stands.outermost.attach accepted.below
    · intro id member
      rcases opened id member with before | ⟨new, open_⟩
      · exact (stands.inside id before).attach accepted.below
      · have last : id = ⟨tree.size⟩ :=
          new.trans (congrArg WidgetId.mk stands.counted.symm)
        rw [last]
        exact accepts_attach_new accepted.below open_

theorem granted (visits : List Visit)
    (stands : tree.Stands base outer walk) :
    ∃ ids after,
      (Request.askAll factory
          (walk.script (numbering.number base) outer visits).requests).runFrom
        tree = (.ok ids, after) := by
  induction visits generalizing tree walk with
  | nil => exact ⟨[], tree, rfl⟩
  | cons visit rest induction =>
      rw [Walk.script]
      cases faultless : visit.fault? with
      | some fault => exact ⟨[], tree, rfl⟩
      | none =>
          rcases stands.advance faultless with
            ⟨silent, later⟩ | ⟨request, id, middle, asks, asked, later⟩
          · simp only [silent]
            exact induction later
          · rcases induction later with ⟨ids, after, ran⟩
            refine ⟨id :: ids, after, ?_⟩
            simp only [asks, Option.toList_some, List.singleton_append,
              Request.askAll]
            rw [Effect.runFrom_bind, Effect.runFrom_request, asked]
            simp only [Effect.runFrom_bind, ran, Effect.runFrom_pure]

end Stands

/-- Under a parent that accepts widgets all requests of a script are granted. -/
theorem script_granted (accepted : tree.Accepts outer) (node : Node) :
    ∃ ids after,
      (Request.askAll factory
          (node.script (numbering.number tree.size) outer).requests).runFrom
        tree = (.ok ids, after) := by
  have stands : tree.Stands tree.size outer Walk.start := by
    constructor
    · rfl
    · exact accepted
    · intro id member
      cases member
  exact stands.granted node.visits

/-! ## How a compile ends -/

/-- Under a parent that accepts widgets a compile ends as the template says. -/
theorem compile_verdict
    {context : Context WidgetId} (accepted : tree.Accepts context.parent)
    (node : Node) :
    (Effect.runFrom (compile factory node)
        { toolkit := tree
          context }).1 =
      node.verdict
        (Compiled.ofPieces
          (Item.piecesFrom (numbering.number tree.size) 0 node.items)) := by
  rcases script_granted accepted node with ⟨ids, after, granted⟩
  exact congrArg Prod.fst (compile_of_granted numbering granted)

/-- A part of a document ends in its first fault, or it compiles. -/
theorem compile_outcome
    {context : Context WidgetId} (accepted : tree.Accepts context.parent)
    (node : Node) :
    let part :=
      Effect.runFrom (compile factory node)
        { toolkit := tree
          context }
    ((∃ result, part.1 = .ok result) ↔ node.Buildable) ∧
      (¬ node.Buildable →
        ∃ fault, node.firstFault? = some fault ∧
          part.1 = .error fault.error) ∧
      ∀ cause, part.1 ≠ .error (.factory cause) := by
  intro part
  have ended : part.1 = node.verdict _ := compile_verdict accepted node
  rw [ended]
  by_cases buildable : node.Buildable
  · simp [Node.verdict_of_buildable buildable, buildable]
  · rcases Node.verdict_of_not_buildable buildable with ⟨fault, found, failed⟩
    rw [failed]
    refine ⟨by simp [buildable], fun _ => ⟨fault, found, rfl⟩, ?_⟩
    intro cause same
    exact fault.error_ne.1 cause (Except.error.inj same)

/-! ## How a document ends -/

/--
The empty arena grants the script of a document.  The document ends in its
first fault; without one it ends in the first widget if it comes down to one
element, and in the shape of its items if it does not.
-/
theorem compileDocument_cases (document : Node) :
    ∃ ids after,
      (Request.askAll factory
          (document.script (numbering.number empty.size) none).requests).runFrom
        empty = (.ok ids, after) ∧
      ((∃ fault, document.firstFault? = some fault ∧
          observed (compileDocument factory document empty) =
            (.error fault.error, after, none)) ∨
        (document.firstFault? = none ∧ document.IsElement ∧
          observed (compileDocument factory document empty) =
            (.ok ⟨0⟩, after, none)) ∨
        (document.firstFault? = none ∧ ¬ document.IsElement ∧
          observed (compileDocument factory document empty) =
            (.error (.structural (Item.shape document.items)), after, none))) := by
  have accepted : empty.Accepts none := trivial
  rcases script_granted accepted document with ⟨ids, after, granted⟩
  refine ⟨ids, after, granted, ?_⟩
  have ended : observed (compileDocument factory document empty) = _ :=
    compileDocument_of_granted numbering granted
  rw [ended]
  cases document.firstFault? with
  | some fault => exact Or.inl ⟨fault, rfl, rfl⟩
  | none =>
      refine Or.inr ?_
      by_cases single : document.IsElement
      · refine Or.inl ⟨rfl, single, ?_⟩
        simp only [Item.soleWidget_piecesFrom _ _ single, Effect.runFrom_pure]
        rfl
      · refine Or.inr ⟨rfl, single, ?_⟩
        simp only [Item.soleWidget_piecesFrom_of_not _ _ single,
          Effect.runFrom_throw]

section Roots

variable {document : Node} {after : WidgetTree} {ids : List WidgetId}
variable (faultless : document.firstFault? = none)
variable
  (granted :
    (Request.askAll factory
        (document.script (numbering.number empty.size) none).requests).runFrom
      empty = (.ok ids, after))

include faultless granted

/-- Every widget of a document is described by the entry with its number. -/
theorem exists_entry_of_granted {id : WidgetId} {widget : Widget}
    (found : after.get? id = some widget) :
    ∃ entry, document.outline[id.index]? = some entry ∧
      entry.Describes (numbering.number empty.size) none widget.origin := by
  rcases origins_described faultless granted with ⟨added, grown, described⟩
  have inside : id.index < document.outline.length := by
    have old := get?_lt found
    rw [size_grown grown, ← described.length_eq] at old
    exact Nat.lt_of_lt_of_eq old (Nat.zero_add _)
  have listed := List.getElem?_eq_getElem inside
  rcases exists_get?_described grown described listed with
    ⟨same, there, describes⟩
  have number : numbering.number empty.size id.index = id :=
    congrArg WidgetId.mk (Nat.zero_add id.index)
  rw [number, found] at there
  cases there
  exact ⟨_, listed, describes⟩

/--
If a document comes down to one element, the first widget is a root, and every
other root is a toplevel.
-/
theorem roots_of_granted (single : document.IsElement) :
    (⟨0⟩ : WidgetId) ∈ after.roots ∧
      ∀ root ∈ after.roots, root ≠ ⟨0⟩ →
        ∃ widget, after.get? root = some widget ∧
          widget.element.category = .toplevel := by
  have formed := (Reachable.empty.askAll granted).wellFormed
  rcases single.outline with ⟨first, rest, listed, free, enclosed⟩
  rw [formed.roots_eq]
  constructor
  · rcases origins_described faultless granted with ⟨added, grown, described⟩
    have head : document.outline[0]? = some first := by
      rw [listed]
      rfl
    rcases exists_get?_described grown described head with
      ⟨widget, found, describes⟩
    have found : after.get? ⟨0⟩ = some widget := found
    rw [List.mem_filter, mem_ids, decide_eq_true_eq, parent?_of_found found]
    exact ⟨get?_lt found, describes.parent_eq_none free⟩
  · intro root member other
    rw [List.mem_filter, mem_ids, decide_eq_true_eq] at member
    rcases member with ⟨inside, parentless⟩
    rcases exists_get? inside with ⟨widget, found⟩
    rcases exists_entry_of_granted faultless granted found with
      ⟨entry, there, describes⟩
    rw [parent?_of_found found] at parentless
    have later : entry ∈ rest := by
      rw [listed] at there
      rcases root with ⟨_ | index⟩
      · exact (other rfl).elim
      · exact List.mem_of_getElem? there
    exact
      ⟨widget, found,
        describes.toplevel_of_parent_eq_none (enclosed entry later) parentless⟩

end Roots

/--
Which documents compile, and how the others fail.

A document compiles into the empty arena exactly when it is buildable and
comes down to one element.  Its root is then the first widget, which is a root
of the arena, and every other root is a toplevel.  A document fails for its
structure exactly when it is buildable and does not come down to one element;
the error tells the shape of its items.  A document that is not buildable
fails with the error of its first fault.  The arena never refuses anything.

The same goes for a part of a document in any arena under a parent that
accepts widgets: it compiles exactly when it is buildable, it fails with the
error of its first fault otherwise, and the arena never refuses anything.
-/
theorem compileDocument_outcome (document : Node) :
    let run := compileDocument factory document empty
    ((∃ id, run.1 = .ok id) ↔ document.Buildable ∧ document.IsElement) ∧
      (∀ id, run.1 = .ok id →
        id = ⟨0⟩ ∧ id ∈ run.2.toolkit.roots ∧
          ∀ root ∈ run.2.toolkit.roots, root ≠ id →
            ∃ widget, run.2.toolkit.get? root = some widget ∧
              widget.element.category = .toplevel) ∧
      (∀ found, run.1 = .error (.structural found) ↔
        document.Buildable ∧ ¬ document.IsElement ∧
          found = Item.shape document.items) ∧
      (¬ document.Buildable →
        ∃ fault, document.firstFault? = some fault ∧
          run.1 = .error fault.error) ∧
      (∀ cause, run.1 ≠ .error (.factory cause)) ∧
      ∀ (tree : WidgetTree) (context : Context WidgetId),
        tree.Accepts context.parent →
          let part :=
            Effect.runFrom (compile factory document)
              { toolkit := tree
                context }
          ((∃ result, part.1 = .ok result) ↔ document.Buildable) ∧
            (¬ document.Buildable →
              ∃ fault, document.firstFault? = some fault ∧
                part.1 = .error fault.error) ∧
            ∀ cause, part.1 ≠ .error (.factory cause) := by
  intro run
  have parts (tree : WidgetTree) (context : Context WidgetId)
      (accepted : tree.Accepts context.parent) :=
    compile_outcome accepted document
  rcases compileDocument_cases document with
    ⟨ids, after, granted, ⟨fault, faulty, seen⟩ | ⟨faultless, single, seen⟩ |
      ⟨faultless, other, seen⟩⟩
  · have ended : run.1 = .error fault.error := congrArg Prod.fst seen
    have broken : ¬ document.Buildable := by
      intro buildable
      have faultless := document.firstFault?_eq_none_iff.mpr buildable
      rw [faulty] at faultless
      cases faultless
    rw [ended]
    refine ⟨?_, ?_, ?_, ?_, ?_, parts⟩
    · simp [broken]
    · intro id came
      cases came
    · intro found
      simp [broken, fault.error_ne.2 found]
    · intro _
      exact ⟨fault, faulty, rfl⟩
    · intro cause same
      exact fault.error_ne.1 cause (Except.error.inj same)
  · have ended : run.1 = .ok ⟨0⟩ := congrArg Prod.fst seen
    have left : run.2.toolkit = after := congrArg (·.2.1) seen
    have buildable := document.firstFault?_eq_none_iff.mp faultless
    rw [ended, left]
    refine ⟨?_, ?_, ?_, ?_, ?_, parts⟩
    · exact iff_of_true ⟨_, rfl⟩ ⟨buildable, single⟩
    · intro id came
      cases came
      exact ⟨rfl, roots_of_granted faultless granted single⟩
    · intro found
      simp [single]
    · intro broken
      exact (broken buildable).elim
    · intro cause same
      cases same
  · have ended : run.1 = .error (.structural (Item.shape document.items)) :=
      congrArg Prod.fst seen
    have buildable := document.firstFault?_eq_none_iff.mp faultless
    rw [ended]
    refine ⟨?_, ?_, ?_, ?_, ?_, parts⟩
    · simp [other]
    · intro id came
      cases came
    · intro found
      simp [buildable, other, eq_comm]
    · intro broken
      exact (broken buildable).elim
    · intro cause same
      cases same

/-- A box is a document, and the dialog in it is another root. -/
theorem compileDocument_outcome_box :
    let document : Node :=
      .sequence
        [.tag "hbox" .empty
          (.sequence
            [.tag "push_button" .empty (.text "ok"),
              .tag "popup_dialog" .empty (.sequence [])])]
    let run := compileDocument factory document empty
    let tree := ((Request.container .vbox none).ask factory empty).2
    run.1 = .ok ⟨0⟩ ∧
      run.2.toolkit.roots = [⟨0⟩, ⟨2⟩] ∧
      (∀ root ∈ run.2.toolkit.roots, root ≠ ⟨0⟩ →
        ∃ widget, run.2.toolkit.get? root = some widget ∧
          widget.element.category = .toplevel) ∧
      tree.Accepts (some ⟨0⟩) ∧
      ∀ cause,
        (Effect.runFrom (compile factory document)
          { toolkit := tree
            context := Context.start (some ⟨0⟩) }).1 ≠
          .error (.factory cause) := by
  intro document run tree
  have compiled : run.1 = .ok ⟨0⟩ := rfl
  have accepted : tree.Accepts (some ⟨0⟩) := by
    refine ⟨_, rfl, ?_⟩
    intro leaf
    cases leaf
  rcases compileDocument_outcome document with ⟨-, roots, -, -, -, parts⟩
  exact
    ⟨compiled, rfl, (roots ⟨0⟩ compiled).2.2, accepted,
      (parts tree (Context.start (some ⟨0⟩)) accepted).2.2⟩

end WidgetTree

end WidgetTemplate
