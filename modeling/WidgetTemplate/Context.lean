import WidgetTemplate.LogRecord

/-!
# The current parent

While a template is compiled there is at most one current parent, the widget
that new widgets are attached to.  Entering a widget makes it the current
parent for a scope; when the scope ends, for whatever reason, the parent from
before it is put back.
-/

namespace WidgetTemplate

/-- The current parent, and the records of every scope so far. -/
structure Context (η : Type) where
  parent : Option η
  /-- The records, latest last. -/
  log : Array (LogRecord η)

namespace Context

variable {η : Type}

/-- A context before anything happened in it. -/
def start (parent : Option η) : Context η where
  parent := parent
  log := #[]

/-- The context with one more record. -/
def note (context : Context η) (record : LogRecord η) : Context η :=
  { context with log := context.log.push record }

/-- The context inside a scope of `parent`. -/
def enter (context : Context η) (parent : η) : Context η :=
  { context.note (.entered parent) with parent := some parent }

/-- The context after a scope, with the parent from before the scope. -/
def leave (context : Context η) (restored : Option η) : Context η :=
  { context.note (.left context.parent restored) with parent := restored }

end Context

/-- A step of a script over the current parent. -/
inductive ScopeStep (η : Type) where
  /-- Look at the current parent. -/
  | look
  /-- Make a widget the current parent while a script runs. -/
  | scope (parent : η) (steps : List (ScopeStep η))
  /-- Give up, which ends every script around this step. -/
  | fail
  deriving Inhabited

namespace ScopeStep

variable {η : Type}

/-- The moments of a script at which the current parent is noted. -/
inductive Moment where
  | look
  | enter
  | leave
  | fail
  deriving DecidableEq, Repr

/-- What a script did so far. -/
structure Outcome (η : Type) where
  context : Context η
  /-- The current parent at every noted moment, latest last. -/
  notes : Array (Moment × Option η)
  /-- Whether a step gave up. -/
  failed : Bool

/-- The outcome with the current parent noted. -/
def Outcome.note (outcome : Outcome η) (moment : Moment) : Outcome η :=
  { outcome with notes := outcome.notes.push (moment, outcome.context.parent) }

mutual

/-- Runs one step. -/
def run (outcome : Outcome η) : ScopeStep η → Outcome η
  | .look => outcome.note .look
  | .fail => { outcome.note .fail with failed := true }
  | .scope parent steps =>
      let inside := { outcome with context := outcome.context.enter parent }
      let done := runAll (inside.note .enter) steps
      let outside :=
        { done with context := done.context.leave outcome.context.parent }
      outside.note .leave

/-- Runs a script until it ends or a step gives up. -/
def runAll (outcome : Outcome η) : List (ScopeStep η) → Outcome η
  | [] => outcome
  | step :: steps =>
      let done := run outcome step
      if done.failed then done else runAll done steps

end

/-- The outcome of a script that starts with a current parent. -/
def outcomeOf (parent : Option η) (steps : List (ScopeStep η)) : Outcome η :=
  runAll
    { context := Context.start parent
      notes := #[]
      failed := false }
    steps

end ScopeStep

end WidgetTemplate
