import WidgetTemplate.Node.Flatten
import WidgetTemplate.Source.Read

/-!
# Pipelines

What happens to a template before it is compiled is a chain of stages, each of
which passes its result to the next one or fails.  The standard pipeline reads
a template and then flattens it, unless that is not wanted.
-/

namespace WidgetTemplate

/-- What made a stage fail. -/
inductive StageFault where
  /-- A template was not read. -/
  | reading (error : ReadError)
  | reported (report : String)
  deriving DecidableEq, Repr, Inhabited

/-- The report of a fault, if it has one. -/
def StageFault.message? : StageFault → Option String
  | .reading error => error.message?
  | .reported report => some report

/-- Why a pipeline fails. -/
inductive PipelineError where
  | plain (text : String)
  | stage (name : String) (fault : StageFault)
  deriving DecidableEq, Repr, Inhabited

/-- The report of an error, if it has one. -/
def PipelineError.message? : PipelineError → Option String
  | .plain text => some text
  | .stage name fault =>
      fault.message?.map fun report => "Stage '" ++ name ++ "' failed: " ++ report

/-- A stage of a pipeline, or a pipeline as a whole. -/
abbrev Stage (α β : Type) := α → Except PipelineError β

namespace Stage

/-- One stage after another. -/
def andThen {α β γ : Type} (first : Stage α β) (second : Stage β γ) : Stage α γ :=
  fun input => first input >>= second

/-- The stage that reads a template. -/
def read (format : SourceFormat) : Stage String Node := fun source =>
  (readTemplate source format).mapError fun error =>
    .stage "read-ir" (.reading error)

/-- The stage that flattens a template. -/
def flatten : Stage Node Node := fun node =>
  .ok node.flatten

/-- The standard pipeline. -/
def standard (format : SourceFormat) (flattens : Bool) : Stage String Node :=
  if flattens then
    (read format).andThen flatten
  else
    read format

end Stage

end WidgetTemplate
