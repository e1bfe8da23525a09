import WidgetTemplate.Proofs.Compile.Construction

/-!
# A toolkit that keeps a ledger

Which requests a compile makes of a toolkit, and how each of them is answered,
cannot be read off the state the toolkit is left in.  `WidgetFactory.withLedger`
adds a ledger to any toolkit that keeps every request with its reply, refused
ones included.

A ledger makes no difference to a compile.  More generally, if a toolkit shows
another one when part of its state is left out, then a compile into the one
shows the compile into the other: it ends alike and leaves the same records.
-/

namespace WidgetTemplate

variable {σ τ η ε α β : Type}

/-! ## Requests with their replies -/

/-- An entry of a ledger. -/
structure Answered (η ε : Type) where
  request : Request η
  reply : Except ε η

/-- The toolkit that also keeps its requests and replies, latest last. -/
def WidgetFactory.withLedger (factory : WidgetFactory σ η ε) :
    WidgetFactory (σ × List (Answered η ε)) η ε where
  createToplevel kind := keep (.toplevel kind)
  createContainer kind parent := keep (.container kind parent)
  createLeaf kind parent text := keep (.leaf kind parent text)
where
  keep (request : Request η) (state : σ × List (Answered η ε)) :
      Except ε η × σ × List (Answered η ε) :=
    let (reply, after) := request.ask factory state.1
    (reply, after, state.2 ++ [{ request, reply }])

theorem Request.ask_withLedger
    (request : Request η) (factory : WidgetFactory σ η ε)
    (state : σ × List (Answered η ε)) :
    request.ask factory.withLedger state =
      ((request.ask factory state.1).1, (request.ask factory state.1).2,
        state.2 ++ [{ request, reply := (request.ask factory state.1).1 }]) := by
  cases request with
  | toplevel kind => rfl
  | container kind parent => rfl
  | leaf kind parent text => rfl

/-! ## Steps of a compile -/

namespace Build

theorem runFrom_request (ask : σ → Except ε η × σ) (state : BuildState σ η) :
    Effect.runFrom (Build.request ask) state =
      ((ask state.toolkit).1.mapError CompileError.factory,
        { state with toolkit := (ask state.toolkit).2 }) := by
  simp only [Effect.runFrom, Build.request, ExceptT.run, ExceptT.mk, StateT.run]
  rcases ask state.toolkit with ⟨reply, after⟩
  cases reply with
  | ok handle => rfl
  | error cause => rfl

/-- A scope changes the context before and after its inside, and nothing else. -/
theorem runFrom_within
    (handle : η) (inner : Build σ η ε α) (state : BuildState σ η) :
    Effect.runFrom (Build.within handle inner) state =
      let inside :=
        Effect.runFrom inner
          { state with context := state.context.enter handle }
      (inside.1,
        { inside.2 with
          context := inside.2.context.leave state.context.parent }) :=
  rfl

end Build

/-! ## Toolkits that show others -/

def BuildState.mapToolkit (project : τ → σ) (state : BuildState τ η) :
    BuildState σ η where
  toolkit := project state.toolkit
  context := state.context

/-- Leaving out part of a toolkit's state leaves a toolkit that replies alike. -/
def WidgetFactory.Shows
    (detailed : WidgetFactory τ η ε) (project : τ → σ)
    (plain : WidgetFactory σ η ε) : Prop :=
  ∀ (request : Request η) (toolkit : τ),
    request.ask plain (project toolkit) =
      ((request.ask detailed toolkit).1,
        project (request.ask detailed toolkit).2)

theorem WidgetFactory.withLedger_shows (factory : WidgetFactory σ η ε) :
    factory.withLedger.Shows Prod.fst factory := by
  intro request state
  rw [request.ask_withLedger]

/-- A part of a compile does what another does when the projection is applied. -/
def Projects (project : τ → σ)
    (part : Build τ η ε α) (image : Build σ η ε α) : Prop :=
  ∀ state : BuildState τ η,
    Effect.runFrom image (state.mapToolkit project) =
      ((Effect.runFrom part state).1,
        (Effect.runFrom part state).2.mapToolkit project)

namespace Projects

variable {project : τ → σ}

theorem pure (value : α) :
    Projects project
      (pure value : Build τ η ε α) (pure value : Build σ η ε α) :=
  fun _ => rfl

theorem throw (error : CompileError ε) :
    Projects project
      (throw error : Build τ η ε α) (throw error : Build σ η ε α) :=
  fun _ => rfl

theorem parent :
    Projects project
      (Build.parent : Build τ η ε (Option η))
      (Build.parent : Build σ η ε (Option η)) :=
  fun _ => rfl

theorem record (entry : LogRecord η) :
    Projects project
      (Build.record entry : Build τ η ε Unit)
      (Build.record entry : Build σ η ε Unit) :=
  fun _ => rfl

theorem bind
    {part : Build τ η ε α} {image : Build σ η ε α}
    {next : α → Build τ η ε β} {nextImage : α → Build σ η ε β}
    (first : Projects project part image)
    (second : ∀ value, Projects project (next value) (nextImage value)) :
    Projects project (part >>= next) (image >>= nextImage) := by
  intro state
  rw [Effect.runFrom_bind, Effect.runFrom_bind, first state]
  rcases Effect.runFrom part state with ⟨result, middle⟩
  cases result with
  | error error => rfl
  | ok value => exact second value middle

theorem request
    {detailed : WidgetFactory τ η ε} {plain : WidgetFactory σ η ε}
    (shown : detailed.Shows project plain) (request : Request η) :
    Projects project
      (Build.request (request.ask detailed))
      (Build.request (request.ask plain)) := by
  intro state
  rw [Build.runFrom_request, Build.runFrom_request, BuildState.mapToolkit,
    shown request state.toolkit]
  rfl

theorem within
    {inner : Build τ η ε α} {image : Build σ η ε α}
    (handle : η) (same : Projects project inner image) :
    Projects project (Build.within handle inner) (Build.within handle image) := by
  intro state
  have inside :=
    same { state with context := state.context.enter handle }
  rw [Build.runFrom_within, Build.runFrom_within]
  simp only [BuildState.mapToolkit] at inside ⊢
  rw [inside]

theorem leafText (name : String) (result : Compiled η) :
    Projects project
      (leafText name result : Build τ η ε String)
      (leafText name result : Build σ η ε String) := by
  unfold WidgetTemplate.leafText
  cases result.single with
  | text content => exact (record _).bind fun _ => pure content
  | widget handle => exact throw _
  | sequence items => exact throw _

theorem recordSplice (result : Compiled η) :
    Projects project
      (recordSplice result : Build τ η ε Unit)
      (recordSplice result : Build σ η ε Unit) := by
  cases result with
  | text content => exact pure ()
  | widget handle => exact pure ()
  | sequence items => exact record _

end Projects

section Compile

variable {detailed : WidgetFactory τ η ε} {plain : WidgetFactory σ η ε}
variable {project : τ → σ}

mutual

/-- A compile into a toolkit shows the compile into what the toolkit shows. -/
theorem compile_projects (shown : detailed.Shows project plain) :
    (node : Node) →
      Projects project (compile detailed node) (compile plain node)
  | .text content => Projects.pure _
  | .sequence [] => sequence_projects shown []
  | .sequence [only] => by
      unfold compile
      exact compile_projects shown only
  | .sequence (first :: second :: rest) =>
      sequence_projects shown (first :: second :: rest)
  | .tag name _ body => by
      have inside := compile_projects shown body
      unfold compile
      refine Projects.parent.bind fun parent => ?_
      rcases Element.named? name with _ | (kind | kind | kind)
      · exact Projects.throw _
      · refine (Projects.record _).bind fun _ => ?_
        refine (Projects.request shown (.toplevel kind)).bind fun handle => ?_
        exact (inside.within handle).bind fun _ => Projects.pure _
      · refine (Projects.record _).bind fun _ => ?_
        refine (Projects.request shown (.container kind parent)).bind
          fun handle => ?_
        exact (inside.within handle).bind fun _ => Projects.pure _
      · refine (Projects.record _).bind fun _ => ?_
        refine inside.bind fun result => ?_
        refine (Projects.leafText name result).bind fun text => ?_
        exact (Projects.request shown (.leaf kind parent text)).bind
          fun handle => Projects.pure _

theorem sequence_projects (shown : detailed.Shows project plain)
    (children : List Node) :
    Projects project
      (do let results ← compileAll detailed children
          return (Compiled.sequence results).single)
      (do let results ← compileAll plain children
          return (Compiled.sequence results).single) :=
  (compileAll_projects shown children).bind fun _ => Projects.pure _

theorem compileAll_projects (shown : detailed.Shows project plain) :
    (children : List Node) →
      Projects project (compileAll detailed children) (compileAll plain children)
  | [] => Projects.pure _
  | child :: rest => by
      unfold compileAll
      refine (compile_projects shown child).bind fun result => ?_
      refine (Projects.recordSplice result).bind fun _ => ?_
      exact (compileAll_projects shown rest).bind fun _ => Projects.pure _

end

end Compile

/-- Keeping a ledger makes no difference to a compile. -/
theorem compile_withLedger (factory : WidgetFactory σ η ε) (node : Node)
    (state : BuildState σ η) (ledger : List (Answered η ε)) :
    Effect.runFrom (compile factory node) state =
      let kept :=
        Effect.runFrom (compile factory.withLedger node)
          (state.mapToolkit (·, ledger))
      (kept.1, kept.2.mapToolkit Prod.fst) :=
  compile_projects factory.withLedger_shows node (state.mapToolkit (·, ledger))

/--
A run that keeps a ledger tells what the run without it shows, and the ledger.
-/
theorem observed_of_ledger {factory : WidgetFactory σ η ε} {node : Node}
    {state : BuildState σ η}
    {result : Except (CompileError ε) (Compiled η)} {toolkit : σ}
    {answers : List (Answered η ε)} {parent : Option η}
    (kept :
      observed
          (Effect.runFrom (compile factory.withLedger node)
            (state.mapToolkit (·, []))) =
        (result, (toolkit, answers), parent)) :
    observed (Effect.runFrom (compile factory node) state) =
        (result, toolkit, parent) ∧
      (Effect.runFrom (compile factory.withLedger node)
        (state.mapToolkit (·, []))).2.toolkit.2 = answers := by
  simp only [observed, Prod.mk.injEq] at kept
  rcases kept with ⟨ended, left, around⟩
  constructor
  · have shown := congrArg Prod.fst left
    rw [compile_withLedger factory node state []]
    exact Prod.ext ended (Prod.ext shown around)
  · rw [left]

end WidgetTemplate
