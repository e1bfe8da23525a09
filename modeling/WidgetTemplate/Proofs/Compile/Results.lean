import WidgetTemplate.Proofs.Compile.Ledger
import WidgetTemplate.Proofs.Compile.Numbering
import WidgetTemplate.Recording

/-!
# What a compile comes to

A result lists the outermost texts and elements of its template, and nothing
that sequences around them add.  Each text is listed as it is, and each element
as the handle that the toolkit answered the element's own request with.

Which request that is shows in a ledger.  `Item.AllYield` reads a whole ledger
along a template: it is cut into one part for each item, and the part of an
element starts with the request for that element and goes on with those for
the items of its body.
-/

namespace WidgetTemplate

variable {σ η ε : Type}

/-! ## The shape of a result -/

namespace Compiled

theorem depthAll_pieces (pieces : List (Piece η)) :
    depthAll (pieces.map Piece.compiled) = 0 := by
  induction pieces with
  | nil => rfl
  | cons piece rest induction =>
      rw [List.map_cons, depthAll, induction]
      cases piece with
      | text content => rfl
      | widget handle => rfl

theorem depth_ofPieces (pieces : List (Piece η)) :
    (ofPieces pieces).depth ≤ 1 := by
  match pieces with
  | [] => exact Nat.le_refl 1
  | [.text _] => exact Nat.zero_le 1
  | [.widget _] => exact Nat.zero_le 1
  | first :: second :: rest =>
      have flat := depthAll_pieces (first :: second :: rest)
      exact Nat.le_of_eq (congrArg (1 + ·) flat)

theorem ofPieces_ne_sequence (pieces : List (Piece η)) (only : Compiled η) :
    ofPieces pieces ≠ .sequence [only] := by
  match pieces with
  | [] => simp [ofPieces]
  | [.text _] => simp [ofPieces, Piece.compiled]
  | [.widget _] => simp [ofPieces, Piece.compiled]
  | _ :: _ :: _ => simp [ofPieces]

end Compiled

/-! ## Ledgers that read like a template -/

mutual

/--
What an item comes to when it is compiled under a parent, with the requests
that are made for it and their replies.  A toplevel or container is requested
first, and its body is compiled under the handle it is given.  The body of a
leaf is one text, for which nothing is requested.
-/
inductive Item.Yields :
    Option η → Item → List (Answered η ε) → Compiled η → Prop where
  | text {parent : Option η} {content : String} :
      Yields parent (.text content) [] (.text content)
  | toplevel {parent : Option η} {name : String}
      {attributes : Attributes} {body : Node} {kind : ToplevelKind} {handle : η}
      {answers : List (Answered η ε)} {results : List (Compiled η)}
      (named : Element.named? name = some (.toplevel kind))
      (inside : AllYield (some handle) body.items answers results) :
      Yields parent (.tag name attributes body)
        ({ request := .toplevel kind, reply := .ok handle } :: answers)
        (.widget handle)
  | container {parent : Option η} {name : String}
      {attributes : Attributes} {body : Node} {kind : ContainerKind} {handle : η}
      {answers : List (Answered η ε)} {results : List (Compiled η)}
      (named : Element.named? name = some (.container kind))
      (inside : AllYield (some handle) body.items answers results) :
      Yields parent (.tag name attributes body)
        ({ request := .container kind parent, reply := .ok handle } :: answers)
        (.widget handle)
  | leaf {parent : Option η} {name : String}
      {attributes : Attributes} {body : Node} {kind : LeafKind} {handle : η}
      {content : String} (named : Element.named? name = some (.leaf kind))
      (labelled : body.items = [.text content]) :
      Yields parent (.tag name attributes body)
        [{ request := .leaf kind parent content, reply := .ok handle }]
        (.widget handle)

/--
What items come to one after another, and the requests made for them in order.
-/
inductive Item.AllYield :
    Option η → List Item → List (Answered η ε) → List (Compiled η) → Prop where
  | nil {parent : Option η} : AllYield parent [] [] []
  | cons {parent : Option η} {item : Item} {rest : List Item}
      {answers later : List (Answered η ε)}
      {result : Compiled η} {results : List (Compiled η)}
      (first : Yields parent item answers result)
      (others : AllYield parent rest later results) :
      AllYield parent (item :: rest) (answers ++ later) (result :: results)

end

namespace Item

variable {parent : Option η} {items others : List Item}
variable {answers later : List (Answered η ε)} {results more : List (Compiled η)}

theorem Yields.single {item : Item} {result : Compiled η}
    (yields : item.Yields parent answers result) :
    AllYield parent [item] answers [result] := by
  have alone := AllYield.cons yields AllYield.nil
  rwa [List.append_nil] at alone

theorem AllYield.append
    (left : AllYield parent items answers results)
    (right : AllYield parent others later more) :
    AllYield parent (items ++ others) (answers ++ later) (results ++ more) := by
  induction items generalizing answers results with
  | nil =>
      cases left
      exact right
  | cons item rest induction =>
      cases left with
      | cons first beside =>
          rw [List.append_assoc]
          exact .cons first (induction beside)

/-- Only a text comes to a text, and nothing is requested for it. -/
theorem AllYield.of_text {content : String}
    (yields : AllYield parent items answers [.text content]) :
    items = [.text content] ∧ answers = [] := by
  cases yields with
  | cons first beside =>
      cases beside
      cases first
      exact ⟨rfl, rfl⟩

end Item

/-! ## The construction of a node with a ledger -/

section Construct

variable {factory : WidgetFactory σ η ε}

theorem runFrom_request_withLedger_eq_ok
    {request : Request η} {state after : σ × List (Answered η ε)} {handle : η}
    (granted :
      (Effect.request factory.withLedger request).runFrom state =
        (.ok handle, after)) :
    after.2 = state.2 ++ [{ request, reply := .ok handle }] := by
  rw [Effect.runFrom_request, request.ask_withLedger] at granted
  rcases asked : request.ask factory state.1 with ⟨reply, toolkit⟩
  cases reply with
  | error cause => simp [asked] at granted
  | ok built =>
      simp only [asked, Prod.mk.injEq, Except.ok.injEq] at granted
      rcases granted with ⟨rfl, rfl⟩
      rfl

/-- What is requested behind a granted request stands behind it in the ledger. -/
theorem ledger_behind_granted
    {request : Request η} {state opened : σ × List (Answered η ε)} {handle : η}
    {ledger answers : List (Answered η ε)}
    (granted :
      (Effect.request factory.withLedger request).runFrom state =
        (.ok handle, opened))
    (kept : ledger = opened.2 ++ answers) :
    ledger = state.2 ++ { request, reply := .ok handle } :: answers := by
  rw [kept, runFrom_request_withLedger_eq_ok granted, List.append_assoc,
    List.singleton_append]

/-- A leaf has a text only if its body came down to that text. -/
theorem soleText_eq_ok {name content : String} {pieces : List (Piece η)}
    {state after : σ}
    (found :
      (soleText name pieces : Effect σ ε String).runFrom state =
        (.ok content, after)) :
    pieces = [.text content] ∧ after = state := by
  rcases pieces with _ | ⟨written | handle, _ | ⟨next, rest⟩⟩
  · simp [soleText] at found
  · simp only [soleText, Effect.runFrom_pure, Prod.mk.injEq, Except.ok.injEq]
      at found
    rcases found with ⟨rfl, rfl⟩
    exact ⟨rfl, rfl⟩
  · simp [soleText] at found
  · simp [soleText] at found
  · simp [soleText] at found

mutual

/-- Whatever a node comes to, the ledger tells it along the items of the node. -/
theorem construct_yields {parent : Option η}
    {state after : σ × List (Answered η ε)} {pieces : List (Piece η)} :
    (node : Node) →
      (construct factory.withLedger parent node).runFrom state =
          (.ok pieces, after) →
        ∃ answers, after.2 = state.2 ++ answers ∧
          Item.AllYield parent node.items answers (pieces.map Piece.compiled)
  | .text content, built => by
      simp only [construct, Effect.runFrom_pure, Prod.mk.injEq, Except.ok.injEq]
        at built
      rcases built with ⟨rfl, rfl⟩
      exact ⟨[], (List.append_nil _).symm, Item.Yields.text.single⟩
  | .sequence children, built => by
      unfold construct at built
      exact constructAll_yields children built
  | .tag name attributes body, built => by
      unfold construct at built
      rcases named : Element.named? name with _ | (kind | kind | kind)
      · simp [named] at built
      · simp only [named, Effect.runFrom_bind_eq_ok, Effect.runFrom_pure,
          Prod.mk.injEq, Except.ok.injEq] at built
        rcases built with
          ⟨handle, opened, granted, inner, closed, inside, rfl, rfl⟩
        rcases construct_yields body inside with ⟨answers, kept, yields⟩
        have ledger := ledger_behind_granted granted kept
        exact ⟨_, ledger, (Item.Yields.toplevel named yields).single⟩
      · simp only [named, Effect.runFrom_bind_eq_ok, Effect.runFrom_pure,
          Prod.mk.injEq, Except.ok.injEq] at built
        rcases built with
          ⟨handle, opened, granted, inner, closed, inside, rfl, rfl⟩
        rcases construct_yields body inside with ⟨answers, kept, yields⟩
        have ledger := ledger_behind_granted granted kept
        exact ⟨_, ledger, (Item.Yields.container named yields).single⟩
      · simp only [named, Effect.runFrom_bind_eq_ok, Effect.runFrom_pure,
          Prod.mk.injEq, Except.ok.injEq] at built
        rcases built with
          ⟨inner, closed, inside, content, _, found, handle, _, granted, rfl, rfl⟩
        rcases soleText_eq_ok found with ⟨rfl, rfl⟩
        rcases construct_yields body inside with ⟨answers, kept, yields⟩
        -- The body is one text, so the request for the leaf is the only one.
        rcases yields.of_text with ⟨labelled, rfl⟩
        refine ⟨_, ?_, (Item.Yields.leaf named labelled).single⟩
        rw [runFrom_request_withLedger_eq_ok granted, kept, List.append_nil]

theorem constructAll_yields {parent : Option η}
    {state after : σ × List (Answered η ε)} {pieces : List (Piece η)} :
    (children : List Node) →
      (constructAll factory.withLedger parent children).runFrom state =
          (.ok pieces, after) →
        ∃ answers, after.2 = state.2 ++ answers ∧
          Item.AllYield parent (Node.itemsAll children) answers
            (pieces.map Piece.compiled)
  | [], built => by
      simp only [constructAll, Effect.runFrom_pure, Prod.mk.injEq, Except.ok.injEq]
        at built
      rcases built with ⟨rfl, rfl⟩
      exact ⟨[], (List.append_nil _).symm, .nil⟩
  | child :: rest, built => by
      unfold constructAll at built
      simp only [Effect.runFrom_bind_eq_ok, Effect.runFrom_pure, Prod.mk.injEq,
        Except.ok.injEq] at built
      rcases built with ⟨first, middle, head, others, last, tail, rfl, rfl⟩
      rcases construct_yields child head with ⟨answers, kept, yields⟩
      rcases constructAll_yields rest tail with ⟨later, keptLater, yieldsLater⟩
      refine ⟨answers ++ later, ?_, ?_⟩
      · rw [keptLater, kept, List.append_assoc]
      · rw [List.map_append]
        exact yields.append yieldsLater

end

end Construct

/--
What a compile comes to.  For every toolkit and from every state, if a compile
ends in a result, then:

- The result is no nested sequence and no sequence of one, so that reducing it
  leaves it alone.
- A ledger of the requests makes no difference to the compile, and it reads
  along the items of the template.  The elements of the result stand for the
  items one by one and in order: a text for itself, and an element for the
  handle that answered the request for that element.
-/
theorem compile_result_lists_items {factory : WidgetFactory σ η ε} {node : Node}
    {state after : BuildState σ η} {result : Compiled η}
    (compiled :
      Effect.runFrom (compile factory node) state = (.ok result, after)) :
    let kept :=
      Effect.runFrom (compile factory.withLedger node) (state.mapToolkit (·, []))
    result.depth ≤ 1 ∧ (∀ only, result ≠ .sequence [only]) ∧
      result.single = result ∧
      kept.1 = .ok result ∧ kept.2.mapToolkit Prod.fst = after ∧
      Item.AllYield state.context.parent node.items kept.2.toolkit.2
        result.elements := by
  intro kept
  have same : (.ok result, after) = (kept.1, kept.2.mapToolkit Prod.fst) :=
    compiled.symm.trans (compile_withLedger factory node state [])
  rw [Prod.mk.injEq] at same
  have ran : kept = (.ok result, kept.2) := Prod.ext same.1.symm rfl
  rcases compile_ok ran with ⟨pieces, built, rfl⟩
  rcases construct_yields node built with ⟨answers, ledger, yields⟩
  have all : kept.2.toolkit.2 = answers := ledger
  refine ⟨Compiled.depth_ofPieces pieces, Compiled.ofPieces_ne_sequence pieces,
    Compiled.single_ofPieces pieces, same.1.symm, same.2.symm, ?_⟩
  rw [all, Compiled.elements_ofPieces]
  exact yields

/--
A box that holds a button, between two texts in a sequence of sequences, in a
recording that has answered once before.
-/
theorem compile_result_lists_items_in_sequences :
    let node : Node :=
      .sequence
        [.sequence [.text "a", .sequence []],
          .sequence
            [.tag "vbox" .empty
              (.sequence [.tag "push_button" .empty (.text "ok")]),
              .text "b"]]
    let recording : Recording :=
      { calls := #[.toplevel .mainDialog]
        refusing := none }
    let state : BuildState Recording Handle :=
      { toolkit := recording
        context := Context.start (some ⟨0⟩) }
    let result : Compiled Handle := .sequence [.text "a", .widget ⟨1⟩, .text "b"]
    let ledger : List (Answered Handle RecordingError) :=
      [{ request := .container .vbox (some ⟨0⟩), reply := .ok ⟨1⟩ },
        { request := .leaf .pushButton (some ⟨1⟩) "ok", reply := .ok ⟨2⟩ }]
    (Effect.runFrom (compile Recording.factory node) state).1 = .ok result ∧
      result.depth ≤ 1 ∧ result.single = result ∧
      Item.AllYield (some ⟨0⟩) node.items ledger result.elements := by
  intro node recording state result ledger
  have compiled :
      Effect.runFrom (compile Recording.factory node) state = (.ok result, _) :=
        rfl
  have lists := compile_result_lists_items compiled
  exact ⟨rfl, lists.1, lists.2.2.1, lists.2.2.2.2.2⟩

end WidgetTemplate
