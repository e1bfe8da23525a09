import WidgetTemplate.Element
import WidgetTemplate.Text.Quoted

/-!
# Records of a run

Loading, flattening and compiling leave records of what they do.  A record
holds the facts; its text is made only when it is shown, from a function that
shows handles.
-/

namespace WidgetTemplate

/-- One record of a run over widgets with handles of type `η`. -/
inductive LogRecord (η : Type) where
  /-- A document was loaded from a path, to be read in a format. -/
  | loaded (path formatLabel : String)
  /-- A sequence of one node was replaced by the node. -/
  | elided
  /-- The items of a sequence were put into the sequence around it. -/
  | spliced (count : Nat)
  /-- An element is about to be built. -/
  | building (category : Category) (name : String) (parent : Option η)
  /-- The body of a leaf came down to a text. -/
  | leafText (name text : String)
  /-- A widget became the current parent. -/
  | entered (parent : η)
  /-- A current parent was given up for the one before it. -/
  | left (parent restored : Option η)
  deriving DecidableEq, Repr

namespace LogRecord

/-- An optional handle, as `showHandle` shows one. -/
def optional {η : Type} (showHandle : η → String) : Option η → String
  | none => "None"
  | some handle => "Some(" ++ showHandle handle ++ ")"

/-- The level and the text of a record. -/
def line {η : Type} (showHandle : η → String) : LogRecord η → String
  | .loaded path formatLabel =>
      "DEBUG loaded " ++ path ++ " (" ++ formatLabel ++ ")"
  | .elided =>
      "TRACE elide single-child sequence"
  | .spliced count =>
      "TRACE splice " ++ toString count ++ " results into sequence"
  | .building category name parent =>
      "DEBUG build " ++ category.text ++ " `" ++ name ++ "` under " ++
        optional showHandle parent
  | .leafText name text =>
      "DEBUG leaf `" ++ name ++ "` text " ++ Text.quoted text
  | .entered parent =>
      "TRACE enter parent " ++ showHandle parent
  | .left parent restored =>
      "TRACE leave parent " ++ optional showHandle parent ++
        ", restored " ++ optional showHandle restored

end LogRecord

end WidgetTemplate
