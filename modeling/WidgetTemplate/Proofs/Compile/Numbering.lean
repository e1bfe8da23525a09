import WidgetTemplate.Proofs.Compile.Script

/-!
# Playing a script

A toolkit has a `Numbering` when the handle of a widget tells how many widgets
were counted before it.  For such a toolkit building a node is playing the
script of the node, which is `construct_plays_script`: the requests are made
in order, up to the first one that is refused, and if none is, the fault of
the script is reported or the items of the node are returned.
-/

namespace WidgetTemplate

variable {σ η ε α β : Type}

/-! ## Requests in order -/

/-- Makes requests in order, up to the first one that is refused. -/
def Request.askAll (factory : WidgetFactory σ η ε) :
    List (Request η) → Effect σ ε (List η)
  | [] => return []
  | request :: rest => do
      let handle ← Effect.request factory request
      let handles ← askAll factory rest
      return handle :: handles

theorem Request.askAll_append
    (factory : WidgetFactory σ η ε) (left right : List (Request η)) :
    askAll factory (left ++ right) =
      (do let handles ← askAll factory left
          let later ← askAll factory right
          return handles ++ later) := by
  induction left with
  | nil => simp [askAll]
  | cons request rest induction =>
      simp only [List.cons_append, askAll, induction, bind_assoc, pure_bind]

@[simp]
theorem Effect.throw_bind
    (error : CompileError ε) (next : α → Effect σ ε β) :
    ((throw error : Effect σ ε α) >>= next) = throw error :=
  rfl

theorem Effect.runFrom_bind_eq_ok
    {effect : Effect σ ε α} {next : α → Effect σ ε β} {state after : σ}
    {value : β} :
    (effect >>= next).runFrom state = (.ok value, after) ↔
      ∃ first middle, effect.runFrom state = (.ok first, middle) ∧
        (next first).runFrom middle = (.ok value, after) := by
  rw [Effect.runFrom_bind]
  rcases effect.runFrom state with ⟨result, middle⟩
  cases result with
  | error error => simp
  | ok first => simp [and_assoc]

/-- Effects that end alike from a state are alike if what follows them is. -/
theorem Effect.runFrom_bind_congr
    {left right : Effect σ ε α} {next other : α → Effect σ ε β} {state : σ}
    (same : left.runFrom state = right.runFrom state)
    (later : ∀ value after, right.runFrom state = (.ok value, after) →
      (next value).runFrom after = (other value).runFrom after) :
    (left >>= next).runFrom state = (right >>= other).runFrom state := by
  rw [Effect.runFrom_bind, Effect.runFrom_bind, same]
  rcases ran : right.runFrom state with ⟨result, after⟩
  cases result with
  | error error => rfl
  | ok value => exact later value after ran

/-! ## Toolkits that number their widgets -/

/--
A numbering of what a toolkit builds: the handle of a widget that is built
tells how many the toolkit counted before it, and the count goes up by one.
-/
structure Numbering (factory : WidgetFactory σ η ε) where
  count : σ → Nat
  handle : Nat → η
  counted :
    ∀ (request : Request η) (toolkit after : σ) (built : η),
      request.ask factory toolkit = (.ok built, after) →
        built = handle (count toolkit) ∧ count after = count toolkit + 1

namespace Numbering

variable {factory : WidgetFactory σ η ε} (numbering : Numbering factory)

/-- The handles that a toolkit hands out once it has counted up to `base`. -/
def number (base index : Nat) : η :=
  numbering.handle (base + index)

theorem request_ok
    {request : Request η} {toolkit after : σ} {built : η}
    (ran :
      (Effect.request factory request).runFrom toolkit = (.ok built, after)) :
    built = numbering.handle (numbering.count toolkit) ∧
      numbering.count after = numbering.count toolkit + 1 := by
  rw [Effect.runFrom_request] at ran
  rcases asked : request.ask factory toolkit with ⟨answer, left⟩
  rw [asked] at ran
  cases answer with
  | error cause => simp at ran
  | ok handle =>
      simp only [Prod.mk.injEq, Except.ok.injEq] at ran
      rcases ran with ⟨rfl, rfl⟩
      exact numbering.counted request toolkit left handle asked

theorem askAll_ok
    {requests : List (Request η)} {toolkit after : σ} {handles : List η}
    (ran :
      (Request.askAll factory requests).runFrom toolkit = (.ok handles, after)) :
    handles =
        (List.range requests.length).map
          (numbering.number (numbering.count toolkit)) ∧
      numbering.count after = numbering.count toolkit + requests.length := by
  induction requests generalizing toolkit handles with
  | nil =>
      simp only [Request.askAll, Effect.runFrom_pure, Prod.mk.injEq,
        Except.ok.injEq] at ran
      rcases ran with ⟨rfl, rfl⟩
      simp
  | cons request rest induction =>
      simp only [Request.askAll, Effect.runFrom_bind_eq_ok,
        Effect.runFrom_pure, Prod.mk.injEq, Except.ok.injEq] at ran
      rcases ran with ⟨handle, middle, asked, later, last, askedRest, rfl, rfl⟩
      rcases numbering.request_ok asked with ⟨rfl, counted⟩
      rcases induction askedRest with ⟨rfl, countedRest⟩
      constructor
      · rw [List.length_cons, List.range_succ_eq_map, List.map_cons, List.map_map]
        refine congrArg₂ List.cons rfl (List.map_congr_left fun index _ => ?_)
        simp only [number, counted, Function.comp_apply]
        congr 1
        omega
      · rw [countedRest, counted, List.length_cons]
        omega

theorem count_played
    {outer : Option η} {base : Nat} {walk : Walk η} {visits : List Visit}
    {toolkit after : σ} {handles : List η}
    (counted : numbering.count toolkit = base + walk.made)
    (asked :
      (Request.askAll factory
          (walk.script (numbering.number base) outer visits).requests).runFrom
        toolkit = (.ok handles, after)) :
    numbering.count after =
      base + (walk.script (numbering.number base) outer visits).last.made := by
  rw [(numbering.askAll_ok asked).2, counted, Walk.made_script, Nat.add_assoc]

end Numbering

/-! ## Playing a script -/

namespace Script

/--
Plays a script: makes its requests in order and reports its fault.  Without a
fault the play ends in a given value.
-/
def play (factory : WidgetFactory σ η ε) (script : Script η) (value : α) :
    Effect σ ε α := do
  let _ ← Request.askAll factory script.requests
  match script.fault with
  | some fault => throw fault.error
  | none => return value

theorem play_andThen
    (factory : WidgetFactory σ η ε)
    (first : Script η) (next : Walk η → Script η) (value : α) (later : β) :
    (first.andThen next).play factory later =
      (do let _ ← first.play factory value
          (next first.last).play factory later) := by
  unfold andThen play
  cases fault : first.fault with
  | some fault => simp [fault]
  | none => simp [Request.askAll_append]

theorem play_request
    (factory : WidgetFactory σ η ε) (request : Request η)
    (script : Script η) (value : α) :
    ({ script with requests := request :: script.requests } : Script η).play
        factory value =
      (do let _ ← Effect.request factory request
          script.play factory value) := by
  unfold play
  simp only [Request.askAll, bind_assoc, pure_bind]

theorem play_map
    (factory : WidgetFactory σ η ε) (script : Script η)
    (value : α) (change : α → β) :
    (do let ending ← script.play factory value
        return change ending) =
      script.play factory (change value) := by
  unfold play
  cases script.fault with
  | some fault => simp
  | none => simp

/-- A play that ends in a value made all requests and met no fault. -/
theorem play_ok
    {factory : WidgetFactory σ η ε} {script : Script η} {value ending : α}
    {toolkit after : σ}
    (ran :
      (script.play factory value).runFrom toolkit = (.ok ending, after)) :
    ending = value ∧ script.fault = none ∧
      ∃ handles, (Request.askAll factory script.requests).runFrom toolkit =
        (.ok handles, after) := by
  unfold play at ran
  rcases Effect.runFrom_bind_eq_ok.mp ran with ⟨handles, middle, asked, ended⟩
  cases fault : script.fault with
  | some fault => simp [fault] at ended
  | none =>
      simp only [fault, Effect.runFrom_pure, Prod.mk.injEq,
        Except.ok.injEq] at ended
      rcases ended with ⟨rfl, rfl⟩
      exact ⟨rfl, rfl, handles, asked⟩

end Script

/-! ## The pieces of items -/

namespace Item

/--
The pieces that items come down to when the elements in them are numbered in
document order from `first`.
-/
def piecesFrom (number : Nat → η) (first : Nat) : List Item → List (Piece η)
  | [] => []
  | .text content :: rest => .text content :: piecesFrom number first rest
  | .tag _ _ body :: rest =>
      .widget (number first) ::
        piecesFrom number (first + (1 + body.tagCount)) rest

theorem piecesFrom_append
    (number : Nat → η) (first : Nat) (left right : List Item) :
    piecesFrom number first (left ++ right) =
      piecesFrom number first left ++
        piecesFrom number (first + tagCountAll left) right := by
  induction left generalizing first with
  | nil => rfl
  | cons item rest induction =>
      cases item with
      | text content =>
          simp [piecesFrom, induction, tagCountAll, tagCount]
      | tag name attributes body =>
          simp [piecesFrom, induction, tagCountAll, tagCount, Nat.add_assoc]

@[simp]
theorem length_piecesFrom
    (number : Nat → η) (first : Nat) (items : List Item) :
    (piecesFrom number first items).length = items.length := by
  induction items generalizing first with
  | nil => rfl
  | cons item rest induction =>
      cases item with
      | text content => simp [piecesFrom, induction]
      | tag name attributes body => simp [piecesFrom, induction]

theorem shape_piecesFrom
    (number : Nat → η) (first : Nat) (items : List Item) :
    (Compiled.ofPieces (piecesFrom number first items)).shape = shape items := by
  match items with
  | [] => rfl
  | [.text _] => rfl
  | [.tag _ _ _] => rfl
  | first :: second :: rest =>
      cases first <;> cases second <;>
        simp [piecesFrom, Compiled.ofPieces, Compiled.shape, shape,
          length_piecesFrom]

/-- Items that are not exactly one text have no text for a leaf. -/
theorem soleText_piecesFrom
    (number : Nat → η) (first : Nat) (name : String) {items : List Item}
    (other : ∀ content, items ≠ [.text content]) :
    (soleText name (piecesFrom number first items) : Effect σ ε String) =
      throw (.shape name (shape items)) := by
  rw [← shape_piecesFrom number first items]
  match items with
  | [] => rfl
  | [.text content] => exact (other content rfl).elim
  | [.tag _ _ _] => rfl
  | first :: second :: rest => cases first <;> cases second <;> rfl

theorem soleWidget_piecesFrom
    (number : Nat → η) (first : Nat) {node : Node} (single : node.IsElement) :
    (soleWidget (piecesFrom number first node.items) : Effect σ ε η) =
      pure (number first) := by
  rcases single with ⟨name, attributes, body, only⟩
  rw [only]
  rfl

/-- Items that are not exactly one element are no document. -/
theorem soleWidget_piecesFrom_of_not
    (number : Nat → η) (first : Nat) {node : Node} (other : ¬ node.IsElement) :
    (soleWidget (piecesFrom number first node.items) : Effect σ ε η) =
      throw (.structural (shape node.items)) := by
  rw [← shape_piecesFrom number first node.items]
  rcases items : node.items with
    _ | ⟨_ | ⟨name, attributes, body⟩, _ | ⟨next, rest⟩⟩
  · rfl
  · rfl
  · cases next <;> rfl
  · exact (other ⟨name, attributes, body, items⟩).elim
  · cases next <;> rfl

end Item

/-! ## Building a node is playing its script -/

section Playing

variable {factory : WidgetFactory σ η ε} (numbering : Numbering factory)
variable (outer : Option η) (base : Nat)

theorem construct_scope (walk : Walk η)
    {name : String} {request : Request η}
    (asks : walk.request? outer (.opening name) = some request)
    (attributes : Attributes) (body : Node) :
    construct factory (walk.parent outer) (.tag name attributes body) =
      (do let handle ← Effect.request factory request
          let _ ← construct factory (some handle) body
          return [.widget handle]) := by
  rcases Walk.scope_cases outer walk asks with
    ⟨kind, found, rfl⟩ | ⟨kind, found, rfl⟩
  · simp only [construct, found]
  · simp only [construct, found]

/--
Once the body of a leaf is built, the rest of the leaf is the script of its
closing.
-/
theorem leaf_plays_closing (walk : Walk η)
    {name : String} {kind : LeafKind}
    (found : Element.named? name = some (.leaf kind))
    (body : Node) {toolkit : σ}
    (counted :
      numbering.count toolkit = base + (walk.made + body.tagCount)) :
    (do let text ← soleText name
            (Item.piecesFrom (numbering.number base) walk.made body.items)
        let handle ← Effect.request factory
          (.leaf kind (walk.parent outer) text)
        return [Piece.widget handle]).runFrom toolkit =
      ((Walk.script (numbering.number base) outer
            { walk with made := walk.made + body.tagCount }
            [.closing name body.items]).play factory
          [Piece.widget (numbering.number base walk.made)]).runFrom toolkit := by
  rcases Walk.script_closing_leaf (numbering.number base) outer
      { walk with made := walk.made + body.tagCount } found body.items with
    ⟨content, only, closing⟩ | ⟨other, closing⟩
  · have empty := Node.tagCount_eq_zero only
    rw [empty] at closing counted
    rw [empty, closing, only]
    have played :=
      Script.play_request factory
        (.leaf kind (walk.parent outer) content)
        { requests := []
          fault := none
          last := walk.pass }
        [Piece.widget (numbering.number base walk.made)]
    refine Eq.trans ?_ (congrArg (Effect.runFrom · toolkit) played.symm)
    simp only [Item.piecesFrom, soleText, pure_bind]
    refine Effect.runFrom_bind_congr rfl fun handle after requested => ?_
    rcases numbering.request_ok requested with ⟨rfl, -⟩
    rw [counted]
    rfl
  · rw [closing, Item.soleText_piecesFrom _ _ _ other]
    rfl

mutual

/--
From a state that has counted what a walk has made, a node is built under the
parent of the walk as the script of the node is played, and it comes down to
the items of the node.
-/
theorem construct_plays_script :
    (node : Node) → (walk : Walk η) → (toolkit : σ) →
      numbering.count toolkit = base + walk.made →
        (construct factory (walk.parent outer) node).runFrom toolkit =
          ((walk.script (numbering.number base) outer node.visits).play factory
            (Item.piecesFrom (numbering.number base) walk.made node.items)).runFrom
              toolkit
  | .text content, walk, toolkit, counted => rfl
  | .sequence children, walk, toolkit, counted => by
      unfold construct Node.visits Node.items
      exact constructAll_plays_script children walk toolkit counted
  | .tag name attributes body, walk, toolkit, counted => by
      rcases Walk.name_cases outer walk name with
        unknown | ⟨request, asks⟩ | ⟨kind, found⟩
      · rw [Walk.script_unregistered _ outer walk unknown]
        simp only [construct, unknown]
        rfl
      · rw [construct_scope outer walk asks, Walk.script_scope _ outer walk asks,
          Script.play_request]
        refine Effect.runFrom_bind_congr rfl fun handle after asked => ?_
        rcases numbering.request_ok asked with ⟨rfl, countedAfter⟩
        rw [counted] at countedAfter ⊢
        rw [Script.play_andThen factory _ _
          (Item.piecesFrom (numbering.number base) (walk.enter _).made body.items)]
        refine Effect.runFrom_bind_congr ?_ fun _ _ _ => rfl
        exact construct_plays_script body
          (walk.enter (numbering.number base)) after countedAfter
      · rw [Walk.script_leaf _ outer walk found]
        simp only [construct, found]
        rw [Script.play_andThen factory _ _
          (Item.piecesFrom (numbering.number base) walk.made body.items)]
        refine Effect.runFrom_bind_congr
          (construct_plays_script body walk toolkit counted)
          fun pieces after played => ?_
        rcases Script.play_ok played with ⟨rfl, faultless, handles, asked⟩
        have countedAfter := numbering.count_played counted asked
        rw [Walk.last_script _ outer walk body faultless] at countedAfter ⊢
        exact leaf_plays_closing numbering outer base walk found body countedAfter

theorem constructAll_plays_script :
    (children : List Node) → (walk : Walk η) → (toolkit : σ) →
      numbering.count toolkit = base + walk.made →
        (constructAll factory (walk.parent outer) children).runFrom toolkit =
          ((walk.script (numbering.number base) outer
              (Node.visitsAll children)).play factory
            (Item.piecesFrom (numbering.number base) walk.made
              (Node.itemsAll children))).runFrom toolkit
  | [], walk, toolkit, counted => rfl
  | child :: rest, walk, toolkit, counted => by
      unfold constructAll Node.visitsAll Node.itemsAll
      rw [Walk.script_append, Item.piecesFrom_append, Node.tagCountAll_items,
        Script.play_andThen factory _ _
          (Item.piecesFrom (numbering.number base) walk.made child.items)]
      refine Effect.runFrom_bind_congr
        (construct_plays_script child walk toolkit counted)
        fun pieces after played => ?_
      rcases Script.play_ok played with ⟨rfl, faultless, handles, asked⟩
      have ended := Walk.last_script _ outer walk child faultless
      have countedAfter :
          numbering.count after = base + (walk.made + child.tagCount) := by
        rw [numbering.count_played counted asked, ended]
      have tail :=
        constructAll_plays_script rest
          { walk with made := walk.made + child.tagCount } after countedAfter
      rw [ended, ← Script.play_map factory _ _ (_ ++ ·)]
      exact Effect.runFrom_bind_congr tail fun _ _ _ => rfl

end

end Playing

/-! ## Compiles whose requests are all granted -/

def Node.verdict (node : Node) (value : α) : Except (CompileError ε) α :=
  match node.firstFault? with
  | some fault => .error fault.error
  | none => .ok value

section Verdict

variable {node : Node} {value : α}

theorem Node.verdict_of_buildable (buildable : node.Buildable) :
    (node.verdict value : Except (CompileError ε) α) = .ok value := by
  rw [verdict, node.firstFault?_eq_none_iff.mpr buildable]

/-- A template that is not buildable has a first fault, which is reported. -/
theorem Node.verdict_of_not_buildable (broken : ¬ node.Buildable) :
    ∃ fault, node.firstFault? = some fault ∧
      (node.verdict value : Except (CompileError ε) α) = .error fault.error := by
  cases found : node.firstFault? with
  | none => exact (broken (node.firstFault?_eq_none_iff.mp found)).elim
  | some fault =>
      refine ⟨fault, rfl, ?_⟩
      rw [verdict, found]

end Verdict

/-- Looking for the root of a document leaves the toolkit alone. -/
theorem toolkit_soleWidget (pieces : List (Piece η)) (toolkit : σ) :
    ((soleWidget pieces : Effect σ ε η).runFrom toolkit).2 = toolkit := by
  rcases pieces with _ | ⟨_ | handle, _ | ⟨next, rest⟩⟩
  · rfl
  · rfl
  · rfl
  · rfl
  · rfl

section Granted

variable {factory : WidgetFactory σ η ε} (numbering : Numbering factory)
variable {node : Node} {outer : Option η} {toolkit after : σ} {handles : List η}
variable {pieces : List (Piece η)}

theorem construct_eq_play (node : Node) (outer : Option η) (toolkit : σ) :
    (construct factory outer node).runFrom toolkit =
      ((node.script (numbering.number (numbering.count toolkit)) outer).play
        factory
        (Item.piecesFrom (numbering.number (numbering.count toolkit)) 0
          node.items)).runFrom toolkit :=
  construct_plays_script numbering outer (numbering.count toolkit)
    node Walk.start toolkit rfl

/--
If the requests of its script are granted, a node is built unless it has a
fault, and in any case the toolkit is left as the requests leave it.
-/
theorem construct_of_granted
    (granted :
      (Request.askAll factory
          (node.script (numbering.number (numbering.count toolkit))
            outer).requests).runFrom toolkit = (.ok handles, after)) :
    (construct factory outer node).runFrom toolkit =
      (node.verdict
        (Item.piecesFrom (numbering.number (numbering.count toolkit)) 0
          node.items), after) := by
  rw [construct_eq_play numbering, Script.play, Effect.runFrom_bind, granted,
    Node.fault_script, Node.verdict]
  cases node.firstFault? with
  | some fault => rfl
  | none => rfl

/-- If its requests are granted, a document is built up to its root. -/
theorem constructDocument_of_granted
    (granted :
      (Request.askAll factory
          (node.script (numbering.number (numbering.count toolkit))
            none).requests).runFrom toolkit = (.ok handles, after)) :
    (constructDocument factory node).runFrom toolkit =
      match node.firstFault? with
      | some fault => (.error fault.error, after)
      | none =>
          (soleWidget
            (Item.piecesFrom (numbering.number (numbering.count toolkit)) 0
              node.items)).runFrom after := by
  rw [constructDocument, Effect.runFrom_bind,
    construct_of_granted numbering granted, Node.verdict]
  cases node.firstFault? with
  | some fault => rfl
  | none => rfl

/--
If the requests of its script are granted, a template compiles unless it has a
fault, and the toolkit is left as the requests leave it.
-/
theorem compile_of_granted {context : Context η}
    (granted :
      (Request.askAll factory
          (node.script (numbering.number (numbering.count toolkit))
            context.parent).requests).runFrom toolkit = (.ok handles, after)) :
    observed
        (Effect.runFrom (compile factory node)
          { toolkit
            context }) =
      (node.verdict
        (Compiled.ofPieces
          (Item.piecesFrom (numbering.number (numbering.count toolkit)) 0
            node.items)),
        after, context.parent) := by
  rw [observed_compile, construct_of_granted numbering granted, Node.verdict,
    Node.verdict]
  cases node.firstFault? with
  | some fault => rfl
  | none => rfl

/-- If a request of its script is refused, a template fails as the request does. -/
theorem compile_of_refused {context : Context η} {error : CompileError ε}
    (refused :
      (Request.askAll factory
          (node.script (numbering.number (numbering.count toolkit))
            context.parent).requests).runFrom toolkit = (.error error, after)) :
    observed
        (Effect.runFrom (compile factory node)
          { toolkit
            context }) =
      (.error error, after, context.parent) := by
  rw [observed_compile, construct_eq_play numbering, Script.play,
    Effect.runFrom_bind, refused]
  rfl

/-- If its requests are granted, a document ends in its fault or its root. -/
theorem compileDocument_of_granted
    (granted :
      (Request.askAll factory
          (node.script (numbering.number (numbering.count toolkit))
            none).requests).runFrom toolkit = (.ok handles, after)) :
    observed (compileDocument factory node toolkit) =
      match node.firstFault? with
      | some fault => (.error fault.error, after, none)
      | none =>
          (((soleWidget
              (Item.piecesFrom (numbering.number (numbering.count toolkit)) 0
                node.items) : Effect σ ε η).runFrom after).1, after, none) := by
  rw [observed_compileDocument, constructDocument_of_granted numbering granted]
  cases node.firstFault? with
  | some fault => rfl
  | none => exact Prod.ext rfl (Prod.ext (toolkit_soleWidget _ after) rfl)

/-- A node that was built has no fault, and its requests were granted. -/
theorem construct_ok
    (built :
      (construct factory outer node).runFrom toolkit = (.ok pieces, after)) :
    pieces =
        Item.piecesFrom (numbering.number (numbering.count toolkit)) 0
          node.items ∧
      node.firstFault? = none ∧
      ∃ handles,
        (Request.askAll factory
            (node.script (numbering.number (numbering.count toolkit))
              outer).requests).runFrom toolkit = (.ok handles, after) := by
  rw [construct_eq_play numbering] at built
  rcases Script.play_ok built with ⟨came, faultless, granted⟩
  exact ⟨came, (node.fault_script _ _).symm.trans faultless, granted⟩

end Granted

/-! ## What a compile leaves of a toolkit -/

section Left

variable {factory : WidgetFactory σ η ε}

/-- A play leaves the toolkit as its requests leave it, fault or not. -/
theorem Script.toolkit_play
    (script : Script η) (value : α) (toolkit : σ) :
    ((script.play factory value).runFrom toolkit).2 =
      ((Request.askAll factory script.requests).runFrom toolkit).2 := by
  rw [play, Effect.runFrom_bind]
  rcases (Request.askAll factory script.requests).runFrom toolkit with
    ⟨result, after⟩
  cases result with
  | error error => rfl
  | ok handles =>
      cases script.fault with
      | some fault => rfl
      | none => rfl

theorem toolkit_constructDocument (document : Node) (toolkit : σ) :
    ((constructDocument factory document).runFrom toolkit).2 =
      ((construct factory none document).runFrom toolkit).2 := by
  rw [constructDocument, Effect.runFrom_bind]
  rcases (construct factory none document).runFrom toolkit with ⟨result, after⟩
  cases result with
  | error error => rfl
  | ok pieces => exact toolkit_soleWidget pieces after

variable (numbering : Numbering factory)

/--
However it ends, a compile leaves the toolkit as the requests of the script
leave it when they are made up to the first one that is refused.
-/
theorem toolkit_compile (node : Node) (state : BuildState σ η) :
    (Effect.runFrom (compile factory node) state).2.toolkit =
      ((Request.askAll factory
          (node.script
            (numbering.number (numbering.count state.toolkit))
            state.context.parent).requests).runFrom state.toolkit).2 := by
  have seen := congrArg (·.2.1) (observed_compile factory node state)
  rw [construct_eq_play numbering] at seen
  exact seen.trans (Script.toolkit_play _ _ _)

theorem toolkit_compileDocument (document : Node) (toolkit : σ) :
    (compileDocument factory document toolkit).2.toolkit =
      ((Request.askAll factory
          (document.script
            (numbering.number (numbering.count toolkit))
            none).requests).runFrom toolkit).2 := by
  have seen :=
    congrArg (·.2.1) (observed_compileDocument factory document toolkit)
  have left :
      ((constructDocument factory document).runFrom toolkit).2 = _ :=
    toolkit_constructDocument document toolkit
  rw [construct_eq_play numbering] at left
  exact (seen.trans left).trans (Script.toolkit_play _ _ _)

end Left

end WidgetTemplate
