/-!
# Results of compiling

A node compiles to a text, a widget or a flat sequence of results.  The
compiler never puts a sequence into a sequence: it splices.  Other callers may
nest sequences, so `Compiled.depth` says how deep they go.
-/

namespace WidgetTemplate

universe u

/-- What a node compiles to, over widgets with handles of type `η`. -/
inductive Compiled (η : Type u) where
  | text (content : String)
  | widget (handle : η)
  | sequence (items : List (Compiled η))
  deriving Inhabited

/-- The shape of a result, without texts and handles. -/
inductive ResultShape where
  | text
  | widget
  | sequence (length : Nat)
  deriving DecidableEq, Repr, Inhabited

/-- How reports name a shape. -/
def ResultShape.describe : ResultShape → String
  | .text => "plain text"
  | .widget => "a widget"
  | .sequence 0 => "an empty sequence"
  | .sequence length => "a sequence of " ++ toString length ++ " results"

namespace Compiled

variable {η : Type u}

/-- The shape of a result. -/
def shape : Compiled η → ResultShape
  | .text _ => .text
  | .widget _ => .widget
  | .sequence items => .sequence items.length

/-- The only item of a sequence of one; any other result is left alone. -/
def single : Compiled η → Compiled η
  | .sequence [only] => only
  | result => result

/-- What a result contributes to a sequence around it. -/
def elements : Compiled η → List (Compiled η)
  | .sequence items => items
  | result => [result]

/-- A list of results with one more result spliced in at its end. -/
def splice (results : List (Compiled η)) (item : Compiled η) : List (Compiled η) :=
  results ++ item.elements

mutual

/-- How deep sequences nest: none for a text or widget, one for a flat sequence. -/
def depth : Compiled η → Nat
  | .text _ => 0
  | .widget _ => 0
  | .sequence items => 1 + depthAll items

/-- The greatest depth of a list of results. -/
def depthAll : List (Compiled η) → Nat
  | [] => 0
  | item :: rest => max item.depth (depthAll rest)

end

end Compiled

end WidgetTemplate
