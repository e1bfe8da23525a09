import WidgetTemplate.Proofs.Compile.Ledger
import WidgetTemplate.Proofs.WidgetTree.Arena

/-!
# Refused requests leave no trace

An arena may be asked for widgets again and again, whether it has refused some
of them or not.  What it replies to a request depends on the parent alone: the
parent must be there by then, and it must not be a leaf.

A refused request changes nothing, not even the number of the next widget.  So
a run of requests can be purged of those that are refused.  The others get the
same replies as before, and the arena is the same in the end.
-/

namespace WidgetTemplate

variable {σ η ε : Type}

/-! ## Requests with their replies, in order -/

/-- Makes requests one after another, whatever the replies are. -/
def Request.askEach (factory : WidgetFactory σ η ε) :
    List (Request η) → σ → List (Answered η ε) × σ
  | [], toolkit => ([], toolkit)
  | request :: rest, toolkit =>
      let (reply, after) := request.ask factory toolkit
      let (answers, last) := askEach factory rest after
      ({ request, reply } :: answers, last)

namespace Request

variable {factory : WidgetFactory σ η ε} {toolkit : σ}

theorem askEach_append (left right : List (Request η)) :
    askEach factory (left ++ right) toolkit =
      let first := askEach factory left toolkit
      let second := askEach factory right first.2
      (first.1 ++ second.1, second.2) := by
  induction left generalizing toolkit with
  | nil => rfl
  | cons request rest induction =>
      simp only [List.cons_append, askEach, induction]

@[simp]
theorem map_request_askEach (requests : List (Request η)) :
    (askEach factory requests toolkit).1.map Answered.request = requests := by
  induction requests generalizing toolkit with
  | nil => rfl
  | cons request rest induction =>
      simp only [askEach, List.map_cons, induction]

/--
The reply to a request is the one of the toolkit that the requests
before it leave.
-/
theorem getElem?_askEach (before later : List (Request η)) (request : Request η) :
    (askEach factory (before ++ request :: later) toolkit).1[before.length]? =
      some
        { request
          reply :=
  (request.ask factory (askEach factory before toolkit).2).1 } := by
  have length : (askEach factory before toolkit).1.length = before.length := by
    rw [← List.length_map Answered.request, map_request_askEach]
  rw [askEach_append, List.getElem?_append_right (Nat.le_of_eq length), length,
    Nat.sub_self]
  rfl

end Request

namespace WidgetTree

variable {tree : WidgetTree}

/-! ## Why a request is refused -/

/--
The arena refuses a request for a cause.  The parent is missing, or it is a
leaf, and the cause names it and says what was to be attached to what.
-/
inductive Refuses (tree : WidgetTree) (request : Request WidgetId) :
    ToolkitError → Prop where
  | missing {parent : WidgetId}
      (under : request.parent = some parent)
      (absent : tree.get? parent = none) :
      Refuses tree request (.unknownWidget parent)
  | leaf {parent : WidgetId} {above : Widget}
      (under : request.parent = some parent)
      (found : tree.get? parent = some above)
      (closed : above.element.category = .leaf) :
      Refuses tree request (.notAContainer request.element parent above.element)

theorem refusal?_eq_some_iff (request : Request WidgetId) (cause : ToolkitError) :
    request.parent.bind (tree.refusal? request.element) = some cause ↔
      tree.Refuses request cause := by
  constructor
  · intro refusal
    rcases Option.bind_eq_some_iff.mp refusal with ⟨parent, under, named⟩
    rw [refusal?] at named
    cases found : tree.get? parent with
    | none =>
        simp only [found, Option.some.injEq] at named
        subst named
        exact Refuses.missing under found
    | some above =>
        simp only [found, Option.ite_none_right_eq_some, Option.some.injEq]
          at named
        rcases named with ⟨closed, rfl⟩
        exact Refuses.leaf under found closed
  · intro refuses
    cases refuses with
    | missing under absent => simp [under, refusal?, absent]
    | leaf under found closed => simp [under, refusal?, found, closed]

theorem ask_eq_error_iff (request : Request WidgetId) (cause : ToolkitError) :
    (request.ask factory tree).1 = .error cause ↔ tree.Refuses request cause := by
  rw [← refusal?_eq_some_iff, ask_eq_insert, insert]
  cases request.parent.bind (tree.refusal? request.element) with
  | none => simp
  | some refusal => simp

/-- A request is refused without effect, or it is granted the next number. -/
theorem ask_cases (request : Request WidgetId) (tree : WidgetTree) :
    (∃ cause, request.ask factory tree = (.error cause, tree)) ∨
      ∃ after, request.ask factory tree = (.ok ⟨tree.size⟩, after) ∧
        after.size = tree.size + 1 := by
  by_cases accepted : tree.Accepts request.parent
  · exact Or.inr ⟨_, ask_of_accepts accepted, size_attach _ _ _⟩
  · exact Or.inl (ask_of_not_accepts accepted)

/-! ## Runs without their refused requests -/

/-- The answers of a run of requests that are no refusals. -/
def granted (answers : List (Answered WidgetId ToolkitError)) :
    List (Answered WidgetId ToolkitError) :=
  answers.filter (·.reply.isOk)

theorem askEach_granted (requests : List (Request WidgetId)) (tree : WidgetTree) :
    let run := Request.askEach factory requests tree
    Request.askEach factory ((granted run.1).map Answered.request) tree =
      (granted run.1, run.2) := by
  induction requests generalizing tree with
  | nil => rfl
  | cons request rest induction =>
      rcases ask_cases request tree with ⟨cause, refused⟩ | ⟨after, made, -⟩
      · simp only [Request.askEach, refused]
        exact induction tree
      · have later := induction after
        simp only [granted] at later
        simp only [Request.askEach, made, granted]
        rw [List.filter_cons_of_pos rfl, List.map_cons, Request.askEach, made]
        simp only [later]

theorem reply_granted (requests : List (Request WidgetId)) (tree : WidgetTree) :
    let answers := granted (Request.askEach factory requests tree).1
    answers.map Answered.reply =
      (List.range answers.length).map fun index => .ok ⟨tree.size + index⟩ := by
  induction requests generalizing tree with
  | nil => rfl
  | cons request rest induction =>
      rcases ask_cases request tree with ⟨cause, refused⟩ | ⟨after, made, counted⟩
      · simp only [Request.askEach, refused]
        exact induction tree
      · have later := induction after
        simp only [granted, counted] at later
        simp only [Request.askEach, made, granted]
        rw [List.filter_cons_of_pos rfl, List.map_cons, later, List.length_cons,
          List.range_succ_eq_map, List.map_cons, List.map_map]
        refine congrArg₂ List.cons rfl (List.map_congr_left fun index _ => ?_)
        simp only [Function.comp_apply]
        congr 2
        omega

/--
Refused requests leave no trace.  Whatever is requested of an arena, one
request after another and with parents that need not exist:

- A request is refused exactly if its parent is missing at that moment, or is a
  leaf at that moment, and the refusal says which.  A toplevel is never refused.
- Without the requests that are refused, the others get the same replies, and
  the arena ends up the same.
- The requests that are granted get the numbers from the size of the arena on,
  in order.
-/
theorem askEach_purged (tree : WidgetTree) (requests : List (Request WidgetId)) :
    let run := Request.askEach factory requests tree
    run.1.map Answered.request = requests ∧
      (∀ before request later, requests = before ++ request :: later →
        let here := (Request.askEach factory before tree).2
        ∃ reply, run.1[before.length]? = some { request, reply } ∧
          (∀ cause, reply = .error cause ↔ here.Refuses request cause) ∧
          ∀ kind, request = .toplevel kind → ∃ id, reply = .ok id) ∧
      Request.askEach factory ((granted run.1).map Answered.request) tree =
        (granted run.1, run.2) ∧
      (granted run.1).map Answered.reply =
        (List.range (granted run.1).length).map
          fun index => .ok ⟨tree.size + index⟩ := by
  intro run
  refine ⟨Request.map_request_askEach requests, ?_, askEach_granted requests tree,
    reply_granted requests tree⟩
  rintro before request later rfl here
  refine ⟨_, Request.getElem?_askEach before later request,
    ask_eq_error_iff request, ?_⟩
  rintro kind rfl
  exact ⟨_, rfl⟩

/--
A button is requested in a box that is yet to be built, and a row in a button.
Both are refused, and the others are numbered without them.
-/
theorem askEach_purged_of_two :
    let lost : Request WidgetId := .leaf .pushButton (some ⟨0⟩) "lost"
    let box : Request WidgetId := .container .vbox none
    let button : Request WidgetId := .leaf .pushButton (some ⟨0⟩) "ok"
    let row : Request WidgetId := .container .hbox (some ⟨1⟩)
    let dialog : Request WidgetId := .toplevel .mainDialog
    let requests := [lost, box, button, row, dialog]
    let run := Request.askEach factory requests empty
    let here := (Request.askEach factory [lost, box, button] empty).2
    let cause : ToolkitError :=
      .notAContainer (.container .hbox) ⟨1⟩ (.leaf .pushButton)
    requests = [lost, box, button] ++ row :: [dialog] ∧
      run.1[3]? = some { request := row, reply := .error cause } ∧
      here.Refuses row cause ∧
      Request.askEach factory [box, button, dialog] empty =
          (granted run.1, run.2) ∧
      (granted run.1).map Answered.reply = [.ok ⟨0⟩, .ok ⟨1⟩, .ok ⟨2⟩] := by
  intro lost box button row dialog requests run here cause
  rcases askEach_purged empty requests with ⟨-, moments, purged, numbered⟩
  rcases moments [lost, box, button] row [dialog] rfl with
    ⟨reply, answered, refused, -⟩
  have told : run.1[3]? = some { request := row, reply := .error cause } := rfl
  have same : { request := row, reply := .error cause } = Answered.mk row reply :=
    Option.some.inj (told.symm.trans answered)
  have failed : reply = .error cause := (congrArg Answered.reply same).symm
  exact ⟨rfl, told, (refused cause).mp failed, purged, numbered⟩

end WidgetTree

end WidgetTemplate
