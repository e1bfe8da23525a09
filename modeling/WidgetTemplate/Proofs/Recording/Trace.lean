import WidgetTemplate.Proofs.Compile.Numbering
import WidgetTemplate.Recording

/-!
# What a compile asks for

A recording that refuses nothing grants every request, and it keeps the
requests in the order in which they were made.  Compiling a template into such
a recording therefore shows exactly what the template asks of a toolkit: it
keeps the requests of the template's script, whether the template has a fault
or not.
-/

namespace WidgetTemplate

def Request.call : Request Handle → Call
  | .toplevel kind => .toplevel kind
  | .container kind parent => .container kind parent
  | .leaf kind parent text => .leaf kind parent text

namespace Recording

/-- A recording that refuses nothing, after more requests. -/
def withRequests (calls : Array Call) (requests : List (Request Handle)) :
    Recording where
  calls := calls ++ (requests.map Request.call).toArray
  refusing := none

theorem ask_eq_record (request : Request Handle) (recording : Recording) :
    request.ask factory recording = record request.call recording := by
  cases request with
  | toplevel kind => rfl
  | container kind parent => rfl
  | leaf kind parent text => rfl

/-- The handle of a request is its number, also in a recording that refuses. -/
def numbering : Numbering factory where
  count recording := recording.calls.size
  handle := Handle.mk
  counted := by
    intro request recording after handle asked
    rw [ask_eq_record, record] at asked
    split at asked
    · simp at asked
    · simp only [Prod.mk.injEq, Except.ok.injEq] at asked
      rcases asked with ⟨rfl, rfl⟩
      exact ⟨rfl, Array.size_push _⟩

/-- A recording that refuses nothing grants requests and keeps them. -/
theorem askAll_granted (calls : Array Call) (requests : List (Request Handle)) :
    (Request.askAll factory requests).runFrom
        { calls
          refusing := none } =
      (.ok ((List.range requests.length).map (numbering.number calls.size)),
        withRequests calls requests) := by
  have granted :
      ∃ handles, (Request.askAll factory requests).runFrom
          { calls
            refusing := none } =
        (.ok handles, withRequests calls requests) := by
    induction requests generalizing calls with
    | nil => exact ⟨[], by simp [Request.askAll, withRequests]⟩
    | cons request rest induction =>
        rcases induction (calls.push request.call) with ⟨handles, later⟩
        refine ⟨⟨calls.size⟩ :: handles, ?_⟩
        simp only [Request.askAll, Effect.runFrom_bind, Effect.runFrom_request,
          ask_eq_record, record, reduceCtorEq, if_false, later,
          Effect.runFrom_pure]
        simp [withRequests]
  rcases granted with ⟨handles, ran⟩
  rcases numbering.askAll_ok ran with ⟨rfl, -⟩
  exact ran

/--
What a compile asks for.  Let `script` be the script of a template for a
recording that holds some calls, under the current parent: it walks through
the template in document order and stops at the first fault.  The requests of
the script, made in order, are answered with the numbers that the script gives
them.  The compile appends exactly these requests to the recording, whether it
fails or not.  It fails with the error of the fault if there is one, and it
puts the current parent back.  Without a fault it ends in what the items of
the template come down to, and it has made one request for each element.
-/
theorem compile_records_script
    (calls : Array Call) (context : Context Handle) (node : Node) :
    let recording : Recording :=
      { calls
        refusing := none }
    let number (index : Nat) : Handle := ⟨calls.size + index⟩
    let script := node.script number context.parent
    script.fault = node.firstFault? ∧
      (Request.askAll factory script.requests).runFrom recording =
        (.ok ((List.range script.requests.length).map number),
          withRequests calls script.requests) ∧
      observed
          (Effect.runFrom (compile factory node)
            { toolkit := recording
              context }) =
        (match script.fault with
          | some fault => .error fault.error
          | none => .ok (Compiled.ofPieces (Item.piecesFrom number 0 node.items)),
          withRequests calls script.requests,
          context.parent) ∧
      (script.fault = none → script.requests.length = node.tagCount) := by
  intro recording number script
  have faults : script.fault = node.firstFault? :=
    node.fault_script number context.parent
  have granted := askAll_granted calls script.requests
  refine ⟨faults, granted, ?_, ?_⟩
  · have built :
        (construct factory context.parent node).runFrom recording =
          (node.verdict (Item.piecesFrom number 0 node.items),
            withRequests calls script.requests) :=
      construct_of_granted numbering granted
    rw [observed_compile]
    simp only [built, faults, Node.verdict]
    cases node.firstFault? with
    | some fault => rfl
    | none => rfl
  · intro faultless
    exact node.length_requests_script number context.parent
      (faults.symm.trans faultless)

/--
A box goes under the parent from outside, and a button in a dialog holds a box
in place of a text.  The box in the button is built before the button fails.
-/
theorem compile_records_script_until_fault :
    let button (body : Node) : Node := .tag "push_button" .empty body
    let document (body : Node) : Node :=
      .sequence
        [.tag "hbox" .empty (.sequence []),
          .tag "main_dialog" .empty (button body)]
    let run (body : Node) :=
      Effect.runFrom (compile factory (document body))
        { toolkit :=
            { calls := #[.toplevel .popupDialog]
              refusing := none }
          context := Context.start (some ⟨7⟩) }
    let box : Node := .tag "vbox" .empty (.sequence [])
    (run box).1 = .error (.shape "push_button" .widget) ∧
      (run box).2.toolkit.calls =
        #[.toplevel .popupDialog, .container .hbox (some ⟨7⟩),
          .toplevel .mainDialog, .container .vbox (some ⟨2⟩)] ∧
      ((document (.text "ok")).script (fun index => (⟨1 + index⟩ : Handle))
        (some ⟨7⟩)).requests.length = 3 := by
  intro button document run box
  have broken :=
    compile_records_script #[.toplevel .popupDialog]
      (Context.start (some ⟨7⟩)) (document box)
  have whole :=
    compile_records_script #[.toplevel .popupDialog]
      (Context.start (some ⟨7⟩)) (document (.text "ok"))
  exact
    ⟨congrArg Prod.fst broken.2.2.1,
      congrArg (fun seen => seen.2.1.calls) broken.2.2.1,
      whole.2.2.2 rfl⟩

end Recording

end WidgetTemplate
