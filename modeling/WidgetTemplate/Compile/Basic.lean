import WidgetTemplate.Compile.Error
import WidgetTemplate.Context
import WidgetTemplate.Node.Basic
import WidgetTemplate.WidgetFactory

/-!
# The compiler

A template is walked in document order.  A text compiles to itself.  A
sequence of one node compiles to what the node compiles to; any other sequence
compiles its nodes one after another and splices their results.  A tag is
built by the toolkit capability of its category: a toplevel or container is
built first and is the current parent while its body is compiled, and a leaf
compiles its body to one text first.

A compile that fails keeps everything it did before: the toolkit's state, the
records, and a current parent that every scope has put back.
-/

namespace WidgetTemplate

/-- What a compile changes as it goes. -/
structure BuildState (σ η : Type) where
  /-- The state of the toolkit. -/
  toolkit : σ
  context : Context η

/-- A part of a compile: it ends in a value or an error, and with a state. -/
abbrev Build (σ η ε α : Type) :=
  ExceptT (CompileError ε) (StateM (BuildState σ η)) α

namespace Build

variable {σ η ε α : Type}

/-- Leaves a record. -/
def record (entry : LogRecord η) : Build σ η ε Unit :=
  ExceptT.mk fun state =>
    (.ok (), { state with context := state.context.note entry })

/-- The current parent. -/
def parent : Build σ η ε (Option η) :=
  ExceptT.mk fun state => (.ok state.context.parent, state)

/-- Makes a request of the toolkit. -/
def request (ask : σ → Except ε η × σ) : Build σ η ε η :=
  ExceptT.mk fun { toolkit, context } =>
    match ask toolkit with
    | (.ok handle, toolkit) => (.ok handle, { toolkit, context })
    | (.error cause, toolkit) => (.error (.factory cause), { toolkit, context })

/-- Does a part in the scope of a widget; the scope ends however the part does. -/
def within (handle : η) (inner : Build σ η ε α) : Build σ η ε α :=
  ExceptT.mk fun { toolkit, context } =>
    let outer := context.parent
    let (result, after) :=
      inner.run.run { toolkit, context := context.enter handle }
    (result, { after with context := after.context.leave outer })

end Build

variable {σ η ε : Type}

/-- The text a leaf's body came down to. -/
def leafText (name : String) (result : Compiled η) : Build σ η ε String :=
  match result.single with
  | .text content => do
      Build.record (.leafText name content)
      return content
  | other => throw (.shape name other.shape)

/-- Leaves a record if splicing a result means taking a sequence apart. -/
def recordSplice : Compiled η → Build σ η ε Unit
  | .sequence items => Build.record (.spliced items.length)
  | _ => return ()

mutual

/-- Compiles a node under the current parent. -/
def compile (factory : WidgetFactory σ η ε) : Node → Build σ η ε (Compiled η)
  | .text content => return .text content
  | .sequence [only] => compile factory only
  | .sequence children => do
      let results ← compileAll factory children
      return (Compiled.sequence results).single
  | .tag name _ body => do
      let parent ← Build.parent
      match Element.named? name with
      | none => throw (.classification name)
      | some element =>
          Build.record (.building element.category name parent)
          match element with
          | .toplevel kind =>
              let handle ← Build.request (factory.createToplevel kind)
              let _ ← Build.within handle (compile factory body)
              return .widget handle
          | .container kind =>
              let handle ← Build.request (factory.createContainer kind parent)
              let _ ← Build.within handle (compile factory body)
              return .widget handle
          | .leaf kind =>
              let result ← compile factory body
              let text ← leafText name result
              let handle ← Build.request (factory.createLeaf kind parent text)
              return .widget handle

/-- Compiles nodes in order and splices their results into one list. -/
def compileAll (factory : WidgetFactory σ η ε) :
    List Node → Build σ η ε (List (Compiled η))
  | [] => return []
  | child :: rest => do
      let result ← compile factory child
      recordSplice result
      let later ← compileAll factory rest
      return result.elements ++ later

end

/-- The widget a document came down to. -/
def documentRoot (result : Compiled η) : Build σ η ε η :=
  match result.single with
  | .widget handle => return handle
  | other => throw (.structural other.shape)

/--
Compiles a whole document, without a current parent.  Any single widget is
accepted as its root, not only a toplevel.
-/
def compileDocument
    (factory : WidgetFactory σ η ε)
    (document : Node)
    (toolkit : σ) :
    Except (CompileError ε) η × BuildState σ η :=
  let part := do
    let result ← compile factory document
    documentRoot result
  part.run.run
    { toolkit
      context := Context.start none }

end WidgetTemplate
