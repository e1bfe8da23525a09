import WidgetTemplate.Proofs.Compile.Ledger
import WidgetTemplate.Proofs.Recording.Trace

/-!
# Where a refusing recording cuts a compile

A recording may be told to refuse the element of a name.  Every other request
it answers as a recording that refuses nothing does, with the same number, so
two compiles of one template into such recordings are asked for the same until
the first request for the refused element.  There the compile ends, with the
refused request as the last one that is kept.

The two compiles are compared by their ledgers, which hold the requests with
their replies.
-/

namespace WidgetTemplate

/-- A ledger makes no difference to how widgets are numbered. -/
def Numbering.withLedger {σ η ε : Type} {factory : WidgetFactory σ η ε}
    (numbering : Numbering factory) : Numbering factory.withLedger where
  count state := numbering.count state.1
  handle := numbering.handle
  counted := by
    intro request state after built asked
    rw [request.ask_withLedger] at asked
    simp only [Prod.mk.injEq] at asked
    rcases asked with ⟨reply, rfl⟩
    exact numbering.counted request state.1 _ built (Prod.ext reply rfl)

namespace Recording

/-! ## Single requests -/

theorem name_call (request : Request Handle) :
    request.call.name = request.element.name := by
  cases request with
  | toplevel kind => rfl
  | container kind parent => rfl
  | leaf kind parent text => rfl

theorem element_call (request : Request Handle) :
    request.call.element = request.element := by
  cases request with
  | toplevel kind => rfl
  | container kind parent => rfl
  | leaf kind parent text => rfl

/-- A request for another element than the refused one is granted. -/
theorem ask_granted {request : Request Handle} {refusing : Option String}
    (apart : refusing ≠ some request.element.name)
    (calls : Array Call) (ledger : List (Answered Handle RecordingError)) :
    request.ask factory.withLedger ({ calls, refusing }, ledger) =
      (.ok ⟨calls.size⟩,
        { calls := calls.push request.call
          refusing },
        ledger ++ [{ request, reply := .ok ⟨calls.size⟩ }]) := by
  rw [request.ask_withLedger, ask_eq_record, record, name_call, if_neg apart]

theorem ask_refused (request : Request Handle)
    (calls : Array Call) (ledger : List (Answered Handle RecordingError)) :
    request.ask factory.withLedger
        ({ calls, refusing := some request.element.name }, ledger) =
      (.error (.refused request.element),
        { calls := calls.push request.call
          refusing := some request.element.name },
        ledger ++ [{ request, reply := .error (.refused request.element) }]) := by
  rw [request.ask_withLedger, ask_eq_record, record, name_call, if_pos rfl,
    element_call]

/-! ## Requests in order -/

/-- The ledger of requests that are all granted, numbered from `first` on. -/
def grantedFrom (first : Nat) (requests : List (Request Handle)) :
    List (Answered Handle RecordingError) :=
  requests.mapIdx fun index request => { request, reply := .ok ⟨first + index⟩ }

theorem grantedFrom_cons (first : Nat) (request : Request Handle)
    (rest : List (Request Handle)) :
    grantedFrom first (request :: rest) =
      { request, reply := .ok ⟨first⟩ } :: grantedFrom (first + 1) rest := by
  simp [grantedFrom, List.mapIdx_cons, Nat.add_assoc, Nat.add_comm 1]

theorem grantedFrom_append (first : Nat) (left right : List (Request Handle)) :
    grantedFrom first (left ++ right) =
      grantedFrom first left ++ grantedFrom (first + left.length) right := by
  simp [grantedFrom, List.mapIdx_append, Nat.add_assoc, Nat.add_comm left.length]

theorem map_request_grantedFrom (first : Nat) (requests : List (Request Handle)) :
    (grantedFrom first requests).map Answered.request = requests := by
  induction requests generalizing first with
  | nil => rfl
  | cons request rest induction => rw [grantedFrom_cons, List.map_cons, induction]

theorem request_of_mem_grantedFrom {first : Nat} {requests : List (Request Handle)}
    {answered : Answered Handle RecordingError}
    (member : answered ∈ grantedFrom first requests) :
    answered.request ∈ requests := by
  rw [← map_request_grantedFrom first requests]
  exact List.mem_map_of_mem member

/-- Requests for other elements than the refused one are granted and kept. -/
theorem askAll_apart {refusing : Option String} {requests : List (Request Handle)}
    (apart : ∀ request ∈ requests, refusing ≠ some request.element.name)
    (calls : Array Call) (ledger : List (Answered Handle RecordingError)) :
    ∃ handles,
      (Request.askAll factory.withLedger requests).runFrom
          ({ calls, refusing }, ledger) =
        (.ok handles,
          { calls := calls ++ (requests.map Request.call).toArray
            refusing },
          ledger ++ grantedFrom calls.size requests) := by
  induction requests generalizing calls ledger with
  | nil => exact ⟨[], by simp [Request.askAll, grantedFrom]⟩
  | cons request rest induction =>
      rw [List.forall_mem_cons] at apart
      rcases induction apart.2 (calls.push request.call)
          (ledger ++ [{ request, reply := .ok ⟨calls.size⟩ }]) with
        ⟨handles, later⟩
      refine ⟨⟨calls.size⟩ :: handles, ?_⟩
      rw [Request.askAll, Effect.runFrom_bind, Effect.runFrom_request,
        ask_granted apart.1]
      simp only [Effect.runFrom_bind, later, Effect.runFrom_pure]
      simp [grantedFrom_cons]

/-- The first request for the refused element ends a list of requests. -/
theorem askAll_cut {request : Request Handle} {before : List (Request Handle)}
    (apart : ∀ earlier ∈ before, earlier.element.name ≠ request.element.name)
    (later : List (Request Handle))
    (calls : Array Call) (ledger : List (Answered Handle RecordingError)) :
    (Request.askAll factory.withLedger (before ++ request :: later)).runFrom
        ({ calls, refusing := some request.element.name }, ledger) =
      (.error (.factory (.refused request.element)),
        { calls := calls ++ ((before ++ [request]).map Request.call).toArray
          refusing := some request.element.name },
        ledger ++ grantedFrom calls.size before ++
          [{ request, reply := .error (.refused request.element) }]) := by
  have others :
      ∀ earlier ∈ before,
        some request.element.name ≠ some earlier.element.name := by
    intro earlier member same
    exact apart earlier member (Option.some.inj same).symm
  rcases askAll_apart others calls ledger with ⟨handles, granted⟩
  rw [Request.askAll_append, Effect.runFrom_bind, granted]
  simp only [Request.askAll, Effect.runFrom_bind, Effect.runFrom_request,
    ask_refused]
  simp

/-! ## Compiles -/

/-- A recording after some calls, with the requests of a ledger behind them. -/
def behind (calls : Array Call) (answers : List (Answered Handle RecordingError))
    (refusing : Option String) : Recording where
  calls := calls ++ (answers.map (·.request.call)).toArray
  refusing := refusing

/-- The calls that requests leave are those of their ledger. -/
theorem behind_of_requests {answers : List (Answered Handle RecordingError)}
    {requests : List (Request Handle)}
    (asked : answers.map Answered.request = requests)
    (calls : Array Call) (refusing : Option String) :
    ({ calls := calls ++ (requests.map Request.call).toArray
       refusing } : Recording) = behind calls answers refusing := by
  rw [behind, ← asked, List.map_map]
  rfl

section Compile

variable (calls : Array Call) (context : Context Handle) (node : Node)

/-- The requests of a template in a recording that holds some calls. -/
def requestsOf : List (Request Handle) :=
  (node.script (numbering.number calls.size) context.parent).requests

/-- How a compile ends that is refused nothing. -/
def verdictOf : Except (CompileError RecordingError) (Compiled Handle) :=
  node.verdict
    (Compiled.ofPieces
      (Item.piecesFrom (numbering.number calls.size) 0 node.items))

variable (refusing : Option String)

/-- What a compile into a recording shows, if the recording holds some calls. -/
def outcomeOf :
    Except (CompileError RecordingError)
      (Compiled Handle) × Recording × Option Handle :=
  observed
    (Effect.runFrom (compile factory node)
      { toolkit := { calls, refusing }
        context })

/-- The requests that the compile makes, with the replies to them. -/
def ledgerOf : List (Answered Handle RecordingError) :=
  (Effect.runFrom (compile factory.withLedger node)
    { toolkit := ({ calls, refusing }, [])
      context }).2.toolkit.2

variable {calls context node refusing}

/-- If nothing is requested that is refused, the whole template is compiled. -/
theorem compile_apart
    (apart :
      ∀ request ∈ requestsOf calls context node,
        refusing ≠ some request.element.name) :
    let answers := grantedFrom calls.size (requestsOf calls context node)
    outcomeOf calls context node refusing =
        (verdictOf calls node, behind calls answers refusing, context.parent) ∧
      ledgerOf calls context node refusing = answers := by
  intro answers
  rcases askAll_apart apart calls [] with ⟨handles, granted⟩
  rw [behind_of_requests (map_request_grantedFrom calls.size _), List.nil_append]
    at granted
  rw [outcomeOf, ledgerOf]
  exact observed_of_ledger (compile_of_granted numbering.withLedger granted)

/-- The first request for a refused element ends the compile. -/
theorem compile_cut {request : Request Handle}
    {before later : List (Request Handle)}
    (requests : requestsOf calls context node = before ++ request :: later)
    (apart : ∀ earlier ∈ before, earlier.element.name ≠ request.element.name) :
    let refusing := some request.element.name
    let cause := RecordingError.refused request.element
    let answers :=
      grantedFrom calls.size before ++ [{ request, reply := .error cause }]
    outcomeOf calls context node refusing =
        (.error (.factory cause), behind calls answers refusing, context.parent) ∧
      ledgerOf calls context node refusing = answers := by
  intro refusing cause answers
  have asked : answers.map Answered.request = before ++ [request] := by
    rw [List.map_append, map_request_grantedFrom]
    rfl
  have refused := askAll_cut apart later calls []
  rw [behind_of_requests asked, List.nil_append, ← requests] at refused
  rw [outcomeOf, ledgerOf]
  exact observed_of_ledger (compile_of_refused numbering.withLedger refused)

end Compile

/--
A refusing recording cuts a compile at its first refused request.  Let a
template be compiled into a recording that refuses nothing, whatever it holds
already, and once more into the same recording when it refuses the element of
a name.  The first compile appends the requests of its ledger, and they are
answered with their numbers.

- If none of them is for the name, the second compile has the same ledger,
  appends the same requests and ends alike.
- Otherwise its ledger is the same up to the first request for the name.  That
  request is refused and is the last one, and the compile fails with the refusal.

In any case the current parent is put back.
-/
theorem compile_cut_at_refusal (calls : Array Call) (context : Context Handle)
    (node : Node) (name : String) :
    let outcome := outcomeOf calls context node
    let ledger := ledgerOf calls context node
    ∃ result,
      outcome none = (result, behind calls (ledger none) none, context.parent) ∧
        (∀ (index : Nat) (answered : Answered Handle RecordingError),
          (ledger none)[index]? = some answered →
            answered.reply = .ok ⟨calls.size + index⟩) ∧
        ((∀ answered ∈ ledger none, answered.request.element.name ≠ name) ∧
            ledger (some name) = ledger none ∧
            outcome (some name) =
              (result, behind calls (ledger none) (some name), context.parent) ∨
          ∃ before answered later,
            ledger none = before ++ answered :: later ∧
              (∀ earlier ∈ before, earlier.request.element.name ≠ name) ∧
              answered.request.element.name = name ∧
              let cause := RecordingError.refused answered.request.element
              let kept := before ++ [{ answered with reply := .error cause }]
              ledger (some name) = kept ∧
                outcome (some name) =
                  (.error (.factory cause), behind calls kept (some name),
                    context.parent)) := by
  intro outcome ledger
  have nothing :
      ∀ request ∈ requestsOf calls context node,
        none ≠ some request.element.name := by
    simp
  rcases compile_apart nothing with ⟨plain, granted⟩
  change ledger none = _ at granted
  refine ⟨verdictOf calls node, by rw [granted]; exact plain, ?_, ?_⟩
  · intro index answered listed
    rw [granted, grantedFrom, List.getElem?_mapIdx] at listed
    rcases Option.map_eq_some_iff.mp listed with ⟨request, -, rfl⟩
    rfl
  · cases found : (requestsOf calls context node).find?
      (·.element.name = name) with
    | none =>
        have apart := List.find?_eq_none.mp found
        simp only [decide_eq_true_eq] at apart
        have others :
            ∀ request ∈ requestsOf calls context node,
              some name ≠ some request.element.name :=
          fun request member same =>
            apart request member (Option.some.inj same).symm
        rcases compile_apart others with ⟨ended, kept⟩
        refine Or.inl ⟨?_, kept.trans granted.symm, by rw [granted]; exact ended⟩
        intro answered member
        rw [granted] at member
        exact apart answered.request (request_of_mem_grantedFrom member)
    | some request =>
        rcases List.find?_eq_some_iff_append.mp found with
          ⟨named, before, later, requests, apart⟩
        simp only [decide_eq_true_eq, Bool.not_eq_true', decide_eq_false_iff_not]
          at named apart
        subst named
        rcases compile_cut requests apart with ⟨ended, cut⟩
        refine Or.inr
          ⟨grantedFrom calls.size before,
            { request, reply := .ok ⟨calls.size + before.length⟩ },
            grantedFrom (calls.size + before.length + 1) later, ?_, ?_,
            rfl, cut, ended⟩
        · rw [granted, requests, grantedFrom_append, grantedFrom_cons]
        · intro earlier member
          exact apart earlier.request (request_of_mem_grantedFrom member)

/--
A row is refused between the buttons of a box, and the second one
is not requested.
-/
theorem compile_cut_at_refusal_between_buttons :
    let calls : Array Call := #[.toplevel .mainDialog]
    let node : Node :=
      .tag "vbox" .empty
        (.sequence
          [.tag "push_button" .empty (.text "a"), .tag "hbox" .empty
            (.sequence []), .tag "push_button" .empty (.text "b")])
    let outcome := outcomeOf calls (Context.start none) node
    let ledger := ledgerOf calls (Context.start none) node
    (ledger none).map (·.request.call) =
        [.container .vbox none, .leaf .pushButton (some ⟨1⟩) "a",
          .container .hbox (some ⟨1⟩), .leaf .pushButton (some ⟨1⟩) "b"] ∧
      ∃ before answered later,
        ledger none = before ++ answered :: later ∧
          answered.request.element.name = "hbox" ∧
          let cause := RecordingError.refused answered.request.element
          ledger (some "hbox") =
              before ++ [{ answered with reply := .error cause }] ∧
            (outcome (some "hbox")).1 = .error (.factory cause) := by
  intro calls node outcome ledger
  have requested :
      (ledger none).map (·.request.call) =
        [.container .vbox none, .leaf .pushButton (some ⟨1⟩) "a",
          .container .hbox (some ⟨1⟩), .leaf .pushButton (some ⟨1⟩) "b"] := by
    decide +kernel
  refine ⟨requested, ?_⟩
  rcases compile_cut_at_refusal calls (Context.start none) node "hbox" with
    ⟨result, -, -,
      ⟨apart, -⟩ | ⟨before, answered, later, split, -, named, kept, ended⟩⟩
  · have row :
        Call.container .hbox (some ⟨1⟩) ∈ (ledger none).map (·.request.call) := by
      simp [requested]
    rcases List.mem_map.mp row with ⟨other, member, same⟩
    refine (apart other member ?_).elim
    rw [← name_call, same]
    rfl
  · exact ⟨before, answered, later, split, named, kept, congrArg Prod.fst ended⟩

end Recording

end WidgetTemplate
