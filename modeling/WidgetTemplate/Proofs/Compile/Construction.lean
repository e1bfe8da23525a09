import WidgetTemplate.Compile.Basic

/-!
# Compiling as construction

A compile keeps its current parent in a slot that scopes change and put back,
it leaves records, and it splices results as it assembles them.  What it
builds needs none of this.  `construct` hands the current parent down as an
argument, leaves no records, and collects a plain list of texts and widgets.

The main theorem, `observed_compile`, says that the two agree for every
toolkit: a compile ends in the same result or error and leaves the same state
of the toolkit as the construction, and it puts the current parent back.
-/

namespace WidgetTemplate

variable {σ η ε α β : Type}

/-! ## Requests of a toolkit -/

/-- A request of a toolkit, with the arguments that its capability takes. -/
inductive Request (η : Type) where
  | toplevel (kind : ToplevelKind)
  | container (kind : ContainerKind) (parent : Option η)
  | leaf (kind : LeafKind) (parent : Option η) (text : String)
  deriving DecidableEq, Repr

/-- Makes a request through the capability of its category. -/
def Request.ask (factory : WidgetFactory σ η ε) :
    Request η → σ → Except ε η × σ
  | .toplevel kind => factory.createToplevel kind
  | .container kind parent => factory.createContainer kind parent
  | .leaf kind parent text => factory.createLeaf kind parent text

namespace Request

def element : Request η → Element
  | .toplevel kind => .toplevel kind
  | .container kind _ => .container kind
  | .leaf kind _ _ => .leaf kind

/-- The parent to attach the widget to; a toplevel has none. -/
def parent : Request η → Option η
  | .toplevel _ => none
  | .container _ parent => parent
  | .leaf _ parent _ => parent

/-- The text of the widget; only a leaf has one. -/
def text : Request η → Option String
  | .toplevel _ => none
  | .container _ _ => none
  | .leaf _ _ text => some text

end Request

/-- What a widget is built from. -/
structure Origin (η : Type) where
  element : Element
  parent : Option η
  text : Option String

def Request.origin (request : Request η) : Origin η where
  element := request.element
  parent := request.parent
  text := request.text

/-! ## Effects -/

/-- A computation on a state that ends in a value or a compile error. -/
abbrev Effect (σ ε α : Type) :=
  ExceptT (CompileError ε) (StateM σ) α

namespace Effect

/-- How an effect ends from a state, and the state it leaves. -/
def runFrom (effect : Effect σ ε α) (state : σ) :
    Except (CompileError ε) α × σ :=
  effect.run.run state

def request (factory : WidgetFactory σ η ε) (request : Request η) :
    Effect σ ε η :=
  ExceptT.mk fun toolkit =>
    match request.ask factory toolkit with
    | (.ok handle, after) => (.ok handle, after)
    | (.error cause, after) => (.error (.factory cause), after)

@[simp]
theorem runFrom_pure (value : α) (state : σ) :
    (pure value : Effect σ ε α).runFrom state = (.ok value, state) :=
  rfl

@[simp]
theorem runFrom_throw (error : CompileError ε) (state : σ) :
    (throw error : Effect σ ε α).runFrom state = (.error error, state) :=
  rfl

theorem runFrom_bind
    (effect : Effect σ ε α) (next : α → Effect σ ε β) (state : σ) :
    (effect >>= next).runFrom state =
      match effect.runFrom state with
      | (.ok value, after) => (next value).runFrom after
      | (.error error, after) => (.error error, after) := by
  simp only [runFrom, ExceptT.run_bind, StateT.run_bind]
  rcases effect.run.run state with ⟨result, after⟩
  cases result with
  | ok value => rfl
  | error error => rfl

theorem runFrom_map
    (effect : Effect σ ε α) (change : α → β) (state : σ) :
    (change <$> effect).runFrom state =
      ((effect.runFrom state).1.map change, (effect.runFrom state).2) := by
  rw [map_eq_pure_bind, runFrom_bind]
  rcases effect.runFrom state with ⟨result, after⟩
  cases result <;> rfl

theorem runFrom_request
    (factory : WidgetFactory σ η ε) (request : Request η) (toolkit : σ) :
    (Effect.request factory request).runFrom toolkit =
      match request.ask factory toolkit with
      | (.ok handle, after) => (.ok handle, after)
      | (.error cause, after) => (.error (.factory cause), after) :=
  rfl

end Effect

/-! ## Pieces of a result -/

/-- A part of a result that is not a sequence. -/
inductive Piece (η : Type) where
  | text (content : String)
  | widget (handle : η)
  deriving DecidableEq, Repr

def Piece.compiled : Piece η → Compiled η
  | .text content => .text content
  | .widget handle => .widget handle

namespace Compiled

/-- The result that pieces come down to: a single piece, or their sequence. -/
def ofPieces : List (Piece η) → Compiled η
  | [piece] => piece.compiled
  | pieces => .sequence (pieces.map Piece.compiled)

@[simp]
theorem elements_ofPieces (pieces : List (Piece η)) :
    (ofPieces pieces).elements = pieces.map Piece.compiled := by
  match pieces with
  | [] => rfl
  | [.text _] => rfl
  | [.widget _] => rfl
  | _ :: _ :: _ => rfl

@[simp]
theorem single_sequence_pieces (pieces : List (Piece η)) :
    (sequence (pieces.map Piece.compiled)).single = ofPieces pieces := by
  match pieces with
  | [] => rfl
  | [_] => rfl
  | _ :: _ :: _ => rfl

@[simp]
theorem single_ofPieces (pieces : List (Piece η)) :
    (ofPieces pieces).single = ofPieces pieces := by
  match pieces with
  | [] => rfl
  | [.text _] => rfl
  | [.widget _] => rfl
  | _ :: _ :: _ => rfl

end Compiled

/-! ## The construction of a node -/

/-- The text of a leaf, which must be all that its body came down to. -/
def soleText (name : String) : List (Piece η) → Effect σ ε String
  | [.text content] => return content
  | pieces => throw (.shape name (Compiled.ofPieces pieces).shape)

mutual

/-- Builds the widgets of a node under a parent. -/
def construct (factory : WidgetFactory σ η ε) (parent : Option η) :
    Node → Effect σ ε (List (Piece η))
  | .text content => return [.text content]
  | .sequence children => constructAll factory parent children
  | .tag name _ body =>
      match Element.named? name with
      | none => throw (.classification name)
      | some (.toplevel kind) => do
          let handle ← Effect.request factory (.toplevel kind)
          let _ ← construct factory (some handle) body
          return [.widget handle]
      | some (.container kind) => do
          let handle ← Effect.request factory (.container kind parent)
          let _ ← construct factory (some handle) body
          return [.widget handle]
      | some (.leaf kind) => do
          let pieces ← construct factory parent body
          let text ← soleText name pieces
          let handle ← Effect.request factory (.leaf kind parent text)
          return [.widget handle]

def constructAll (factory : WidgetFactory σ η ε) (parent : Option η) :
    List Node → Effect σ ε (List (Piece η))
  | [] => return []
  | child :: rest => do
      let pieces ← construct factory parent child
      let later ← constructAll factory parent rest
      return pieces ++ later

end

/-- The root of a document, which must be all that it came down to. -/
def soleWidget : List (Piece η) → Effect σ ε η
  | [.widget handle] => return handle
  | pieces => throw (.structural (Compiled.ofPieces pieces).shape)

def constructDocument (factory : WidgetFactory σ η ε) (document : Node) :
    Effect σ ε η := do
  soleWidget (← construct factory none document)

/-! ## Parts of a compile and the effects they realise -/

/--
What a run leaves apart from its records: how it ended, the toolkit and the
current parent.
-/
def observed {ρ : Type} (run : ρ × BuildState σ η) : ρ × σ × Option η :=
  (run.1, run.2.toolkit, run.2.context.parent)

/--
A part of a compile realises an effect under a current parent when, whatever
was recorded before, it does to the toolkit what the effect does, ends alike,
and puts the parent back.
-/
def Realizes
    (parent : Option η) (part : Build σ η ε α) (effect : Effect σ ε α) :
    Prop :=
  ∀ state : BuildState σ η, state.context.parent = parent →
    observed (Effect.runFrom part state) =
      ((effect.runFrom state.toolkit).1,
        (effect.runFrom state.toolkit).2,
        parent)

namespace Realizes

variable {parent : Option η}

theorem pure (value : α) :
    Realizes parent (pure value : Build σ η ε α) (pure value) := by
  rintro state rfl
  rfl

theorem throw (error : CompileError ε) :
    Realizes parent (throw error : Build σ η ε α) (throw error) := by
  rintro state rfl
  rfl

theorem request (factory : WidgetFactory σ η ε) (request : Request η) :
    Realizes parent
      (Build.request (request.ask factory))
      (Effect.request factory request) := by
  rintro state rfl
  simp only [observed, Effect.runFrom_request]
  simp only [Effect.runFrom, Build.request, ExceptT.run, ExceptT.mk, StateT.run]
  rcases request.ask factory state.toolkit with ⟨answer, after⟩
  cases answer with
  | ok handle => rfl
  | error cause => rfl

/-- Looking at the current parent is having it as an argument. -/
theorem afterParent
    {next : Option η → Build σ η ε α} {effect : Effect σ ε α}
    (realized : Realizes parent (next parent) effect) :
    Realizes parent (Build.parent >>= next) effect := by
  rintro state rfl
  exact realized state rfl

theorem afterRecord
    {next : Build σ η ε α} {effect : Effect σ ε α}
    (entry : LogRecord η) (realized : Realizes parent next effect) :
    Realizes parent (Build.record entry >>= fun _ => next) effect := by
  intro state under
  exact realized
    { state with context := state.context.note entry } under

theorem afterSplice
    {next : Build σ η ε α} {effect : Effect σ ε α}
    (result : Compiled η) (realized : Realizes parent next effect) :
    Realizes parent (recordSplice result >>= fun _ => next) effect := by
  cases result with
  | text content => exact realized
  | widget handle => exact realized
  | sequence items => exact afterRecord _ realized

/--
One part after another, where the first ends in a value that its effect gives
up to a change.
-/
theorem bind_map {γ : Type}
    {part : Build σ η ε α} {effect : Effect σ ε γ} {change : γ → α}
    {next : α → Build σ η ε β} {after : γ → Effect σ ε β}
    (first : Realizes parent part (change <$> effect))
    (second : ∀ value, Realizes parent (next (change value)) (after value)) :
    Realizes parent (part >>= next) (effect >>= after) := by
  intro state under
  have head := first state under
  simp only [Effect.runFrom_map] at head
  simp only [Effect.runFrom_bind]
  rcases ran : Effect.runFrom part state with ⟨result, middle⟩
  rcases did : effect.runFrom state.toolkit with ⟨expected, toolkit⟩
  rw [ran, did] at head
  simp only [observed, Prod.mk.injEq] at head
  rcases head with ⟨rfl, rfl, restored⟩
  cases expected with
  | error error => simp [observed, Except.map, restored]
  | ok value => exact second value middle restored

theorem bind
    {part : Build σ η ε α} {effect : Effect σ ε α}
    {next : α → Build σ η ε β} {after : α → Effect σ ε β}
    (first : Realizes parent part effect)
    (second : ∀ value, Realizes parent (next value) (after value)) :
    Realizes parent (part >>= next) (effect >>= after) := by
  have mapped : Realizes parent part (id <$> effect) := by
    rw [id_map]
    exact first
  exact bind_map mapped second

/-- A scope makes its widget the parent, and ends however its inside does. -/
theorem within
    {inner : Build σ η ε α} {effect : Effect σ ε α}
    (handle : η) (realized : Realizes (some handle) inner effect) :
    Realizes parent (Build.within handle inner) effect := by
  rintro state rfl
  have inside :=
    realized { state with context := state.context.enter handle } rfl
  simp only [observed, Prod.mk.injEq] at inside
  rcases inside with ⟨sameResult, sameToolkit, -⟩
  exact Prod.ext sameResult (Prod.ext sameToolkit rfl)

theorem leafText (name : String) (pieces : List (Piece η)) :
    Realizes parent
      (leafText name (Compiled.ofPieces pieces) : Build σ η ε String)
      (soleText name pieces) := by
  unfold WidgetTemplate.leafText
  rw [Compiled.single_ofPieces]
  match pieces with
  | [] => exact throw _
  | [.text content] => exact afterRecord _ (pure content)
  | [.widget _] => exact throw _
  | first :: second :: rest =>
      simp only [Compiled.ofPieces, soleText]
      exact throw _

theorem documentRoot (pieces : List (Piece η)) :
    Realizes parent
      (documentRoot (Compiled.ofPieces pieces) : Build σ η ε η)
      (soleWidget pieces) := by
  unfold WidgetTemplate.documentRoot
  rw [Compiled.single_ofPieces]
  match pieces with
  | [] => exact throw _
  | [.text _] => exact throw _
  | [.widget handle] => exact pure handle
  | first :: second :: rest =>
      simp only [Compiled.ofPieces, soleWidget]
      exact throw _

end Realizes

/-! ## The compiler realises the construction -/

mutual

/-- A compile comes down to the pieces of the construction. -/
theorem compile_realizes
    (factory : WidgetFactory σ η ε) (parent : Option η) :
    (node : Node) →
      Realizes parent (compile factory node)
        (Compiled.ofPieces <$> construct factory parent node)
  | .text content => Realizes.pure _
  | .sequence [] => sequence_realizes factory parent []
  | .sequence [only] => by
      unfold compile construct constructAll constructAll
      simpa using compile_realizes factory parent only
  | .sequence (first :: second :: rest) =>
      sequence_realizes factory parent (first :: second :: rest)
  | .tag name _ body => by
      unfold compile construct
      refine Realizes.afterParent ?_
      rcases Element.named? name with _ | (kind | kind | kind)
      · exact Realizes.throw _
      · refine Realizes.afterRecord _ ?_
        simp only [map_bind, map_pure]
        refine (Realizes.request factory (.toplevel kind)).bind fun handle => ?_
        have inside := compile_realizes factory (some handle) body
        exact (inside.within handle).bind_map fun _ => Realizes.pure _
      · refine Realizes.afterRecord _ ?_
        simp only [map_bind, map_pure]
        refine (Realizes.request factory (.container kind parent)).bind
          fun handle => ?_
        have inside := compile_realizes factory (some handle) body
        exact (inside.within handle).bind_map fun _ => Realizes.pure _
      · refine Realizes.afterRecord _ ?_
        simp only [map_bind, map_pure]
        -- A leaf is no scope: its body is compiled under the same parent.
        refine (compile_realizes factory parent body).bind_map fun pieces => ?_
        refine (Realizes.leafText name pieces).bind fun text => ?_
        exact (Realizes.request factory (.leaf kind parent text)).bind
          fun handle => Realizes.pure _

theorem sequence_realizes
    (factory : WidgetFactory σ η ε) (parent : Option η)
    (children : List Node) :
    Realizes parent
      (do let results ← compileAll factory children
          return (Compiled.sequence results).single)
      (Compiled.ofPieces <$> constructAll factory parent children) := by
  rw [map_eq_pure_bind]
  refine (compileAll_realizes factory parent children).bind_map fun pieces => ?_
  rw [Compiled.single_sequence_pieces]
  exact Realizes.pure _

theorem compileAll_realizes
    (factory : WidgetFactory σ η ε) (parent : Option η) :
    (children : List Node) →
      Realizes parent (compileAll factory children)
        (List.map Piece.compiled <$> constructAll factory parent children)
  | [] => Realizes.pure _
  | child :: rest => by
      unfold compileAll constructAll
      simp only [map_bind, map_pure, List.map_append]
      refine (compile_realizes factory parent child).bind_map fun pieces => ?_
      refine Realizes.afterSplice _ ?_
      refine (compileAll_realizes factory parent rest).bind_map fun later => ?_
      rw [Compiled.elements_ofPieces]
      exact Realizes.pure _

end

/--
Apart from its records, a compile ends as the construction under the current
parent ends, and the current parent is the one from before.
-/
theorem observed_compile
    (factory : WidgetFactory σ η ε) (node : Node)
    (state : BuildState σ η) :
    observed (Effect.runFrom (compile factory node) state) =
      let run :=
        (construct factory state.context.parent node).runFrom state.toolkit
      (run.1.map Compiled.ofPieces, run.2, state.context.parent) := by
  have realized := compile_realizes factory state.context.parent node state rfl
  rw [Effect.runFrom_map] at realized
  exact realized

/-- A compile that ends in a result ends in the result of a construction. -/
theorem compile_ok
    {factory : WidgetFactory σ η ε} {node : Node}
    {state after : BuildState σ η} {result : Compiled η}
    (compiled :
      Effect.runFrom (compile factory node) state = (.ok result, after)) :
    ∃ pieces,
      (construct factory state.context.parent node).runFrom state.toolkit =
          (.ok pieces, after.toolkit) ∧
        result = Compiled.ofPieces pieces := by
  have seen := observed_compile factory node state
  rw [compiled] at seen
  rcases built :
      (construct factory state.context.parent node).runFrom
        state.toolkit with ⟨ending, toolkit⟩
  simp only [built, observed, Prod.mk.injEq] at seen
  rcases seen with ⟨came, rfl, -⟩
  cases ending with
  | error error => simp [Except.map] at came
  | ok pieces => exact ⟨pieces, rfl, Except.ok.inj came⟩

theorem observed_compileDocument
    (factory : WidgetFactory σ η ε) (document : Node) (toolkit : σ) :
    observed (compileDocument factory document toolkit) =
      let run := (constructDocument factory document).runFrom toolkit
      (run.1, run.2, none) :=
  (compile_realizes factory none document).bind_map
    Realizes.documentRoot
    { toolkit
      context := Context.start none }
    rfl

end WidgetTemplate
