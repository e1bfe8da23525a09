import WidgetTemplate.WidgetFactory

/-!
# A toolkit that only records

A recording keeps every request that was made of it, in order, and hands out
the number of the request as the handle.  It may be told to refuse an element;
the refused request is kept too.
-/

namespace WidgetTemplate

/-- The number of a recorded request. -/
structure Handle where
  index : Nat
  deriving DecidableEq, Repr, Inhabited

/-- How records name a handle. -/
def Handle.label (handle : Handle) : String :=
  "Handle(" ++ toString handle.index ++ ")"

/-- One request, with its arguments. -/
inductive Call where
  | toplevel (kind : ToplevelKind)
  | container (kind : ContainerKind) (parent : Option Handle)
  | leaf (kind : LeafKind) (parent : Option Handle) (text : String)
  deriving DecidableEq, Repr

/-- The element that was requested. -/
def Call.element : Call → Element
  | .toplevel kind => .toplevel kind
  | .container kind _ => .container kind
  | .leaf kind _ _ => .leaf kind

/-- The name of the element that was requested. -/
def Call.name (call : Call) : String :=
  call.element.name

/-- Why a recording fails. -/
inductive RecordingError where
  | refused (element : Element)
  deriving DecidableEq, Repr

/-- The report of a refused request. -/
def RecordingError.message : RecordingError → String
  | .refused element => "refused to build `" ++ element.name ++ "`"

/-- The requests made so far, and the name of the element to refuse. -/
structure Recording where
  calls : Array Call
  refusing : Option String
  deriving DecidableEq, Repr, Inhabited

namespace Recording

/-- A recording of nothing that refuses nothing. -/
def empty : Recording where
  calls := #[]
  refusing := none

/-- A recording of nothing that refuses the element of a name. -/
def failingOn (name : String) : Recording where
  calls := #[]
  refusing := some name

/-- The names of the requested elements, in order. -/
def names (recording : Recording) : List String :=
  recording.calls.toList.map Call.name

/-- Keeps a request, and answers it with its number or refuses it. -/
def record (call : Call) (recording : Recording) :
    Except RecordingError Handle × Recording :=
  let kept := { recording with calls := recording.calls.push call }
  if recording.refusing = some call.name then
    (.error (.refused call.element), kept)
  else
    (.ok ⟨recording.calls.size⟩, kept)

/-- The recording as a toolkit for the compiler. -/
def factory : WidgetFactory Recording Handle RecordingError where
  createToplevel kind := record (.toplevel kind)
  createContainer kind parent := record (.container kind parent)
  createLeaf kind parent text := record (.leaf kind parent text)

end Recording

end WidgetTemplate
