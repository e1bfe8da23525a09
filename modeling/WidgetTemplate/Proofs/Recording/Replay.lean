import WidgetTemplate.Proofs.Compile.Renaming
import WidgetTemplate.Proofs.Recording.Trace
import WidgetTemplate.Proofs.WidgetTree.Outcome

/-!
# Recordings of arenas

A recording that refuses nothing and an arena are asked for the same by a
template, as long as the template is compiled without a parent from outside:
an arena then grants the whole script, too.  Both number what they build from
zero on, so the handle of a recording reads as the number of a widget.

Under this reading the two toolkits end alike, and the calls that the
recording keeps are a complete account of the arena.  Replayed in order they
are all granted and build the arena again, also where a fault has cut the
compile short.
-/

namespace WidgetTemplate

/-- The number of the widget that is built where a recording has the handle. -/
def Handle.widgetId (handle : Handle) : WidgetId :=
  ⟨handle.index⟩

namespace Call

def parent : Call → Option Handle
  | .toplevel _ => none
  | .container _ parent => parent
  | .leaf _ parent _ => parent

def text : Call → Option String
  | .toplevel _ => none
  | .container _ _ => none
  | .leaf _ _ text => some text

/-- The request of an arena that repeats a call of a recording. -/
def replayed : Call → Request WidgetId
  | .toplevel kind => .toplevel kind
  | .container kind parent => .container kind (parent.map Handle.widgetId)
  | .leaf kind parent text => .leaf kind (parent.map Handle.widgetId) text

theorem origin_replayed (call : Call) :
    call.replayed.origin =
      { element := call.element
        parent := call.parent.map Handle.widgetId
        text := call.text } := by
  cases call with
  | toplevel kind => rfl
  | container kind parent => rfl
  | leaf kind parent text => rfl

end Call

theorem Request.replayed_call (request : Request Handle) :
    request.call.replayed = request.map Handle.widgetId := by
  cases request with
  | toplevel kind => rfl
  | container kind parent => rfl
  | leaf kind parent text => rfl

namespace Recording

/--
A recording mirrors an arena when it has one call for each widget, what it
was asked for is what the widget with the same number is, and replaying the
calls on the empty arena grants each of them and builds the arena.
-/
structure Mirrors (recording : Recording) (tree : WidgetTree) : Prop where
  size : recording.calls.size = tree.size
  agrees :
    ∀ (index : Nat) (call : Call), recording.calls[index]? = some call →
      ∃ widget, tree.get? ⟨index⟩ = some widget ∧
        widget.element = call.element ∧
        widget.parent = call.parent.map Handle.widgetId ∧
        widget.text = call.text
  replays :
    (Request.askAll WidgetTree.factory
        (recording.calls.toList.map Call.replayed)).runFrom WidgetTree.empty =
      (.ok tree.ids, tree)

/-- A recording mirrors the arena that its calls build when they are replayed. -/
theorem mirrors_of_granted
    {recording : Recording} {tree : WidgetTree} {ids : List WidgetId}
    (granted :
      (Request.askAll WidgetTree.factory
          (recording.calls.toList.map Call.replayed)).runFrom WidgetTree.empty =
        (.ok ids, tree)) :
    recording.Mirrors tree := by
  have grown :
      tree.origins =
        [] ++ (recording.calls.toList.map Call.replayed).map Request.origin :=
    WidgetTree.origins_askAll granted
  have size : tree.size = recording.calls.size := by
    rw [← WidgetTree.length_origins, grown]
    simp
  constructor
  · exact size.symm
  · intro index call listed
    have origin : tree.origins[index]? = some call.replayed.origin := by
      rw [grown]
      simp [listed]
    rw [WidgetTree.origins_getElem?, call.origin_replayed] at origin
    rcases Option.map_eq_some_iff.mp origin with ⟨widget, found, same⟩
    exact
      ⟨widget, found, congrArg Origin.element same, congrArg Origin.parent same,
        congrArg Origin.text same⟩
  · rcases WidgetTree.numbering.askAll_ok granted with ⟨numbered, -⟩
    have all : ids = tree.ids := by
      simp only [numbered, WidgetTree.ids, size, List.length_map,
        Array.length_toList]
      refine List.map_congr_left fun index _ => ?_
      exact congrArg WidgetId.mk (Nat.zero_add index)
    rw [granted, all]

/-! ## The script of a template without a parent -/

/-- A widget has the number that a recording gives to its call. -/
theorem number_renamed (index : Nat) :
    WidgetTree.numbering.number
        (WidgetTree.numbering.count WidgetTree.empty) index =
      (numbering.number (numbering.count empty) index).widgetId :=
  rfl

/--
An empty recording and an empty arena grant the script of a template, and the
recording then mirrors the arena.
-/
theorem script_mirrored (node : Node) :
    ∃ handles ids recording tree,
      (Request.askAll factory
          (node.script (numbering.number (numbering.count empty))
            none).requests).runFrom empty = (.ok handles, recording) ∧
      (Request.askAll WidgetTree.factory
          (node.script
            (WidgetTree.numbering.number
              (WidgetTree.numbering.count WidgetTree.empty))
            none).requests).runFrom WidgetTree.empty = (.ok ids, tree) ∧
      recording.Mirrors tree := by
  have accepted : WidgetTree.empty.Accepts none := trivial
  rcases WidgetTree.script_granted accepted node with ⟨ids, tree, granted⟩
  refine ⟨_, ids, _, tree, askAll_granted #[] _, granted, ?_⟩
  apply mirrors_of_granted
  have renamed := node.script_map Handle.widgetId number_renamed none
  have same :
      (withRequests #[]
          (node.script (numbering.number (numbering.count empty))
            none).requests).calls.toList.map Call.replayed =
        (node.script
          (WidgetTree.numbering.number
            (WidgetTree.numbering.count WidgetTree.empty)) none).requests := by
    rw [Option.map_none] at renamed
    rw [renamed]
    simp [withRequests, Script.map, Function.comp_def, Request.replayed_call]
  rw [same]
  exact granted

/--
A recording and an arena simulate each other.  A template that is compiled
without a parent ends alike into an empty recording that refuses nothing and
into the empty arena: in the same result, where the handle of a call reads as
the number of a widget, or in the same error, which is never one of a toolkit.
Whichever it is, the recording mirrors the arena afterwards.  The same holds
for a document.
-/
theorem compile_mirrored (node : Node) :
    let recorded :=
      Effect.runFrom (compile factory node)
        { toolkit := empty
          context := Context.start none }
    let built :=
      Effect.runFrom (compile WidgetTree.factory node)
        { toolkit := WidgetTree.empty
          context := Context.start none }
    let recordedDocument := compileDocument factory node empty
    let builtDocument := compileDocument WidgetTree.factory node WidgetTree.empty
    EndsAlike (fun result other => result.map Handle.widgetId = other)
        recorded.1 built.1 ∧
      recorded.2.toolkit.Mirrors built.2.toolkit ∧
      EndsAlike (fun handle id => handle.widgetId = id)
        recordedDocument.1 builtDocument.1 ∧
      recordedDocument.2.toolkit.Mirrors builtDocument.2.toolkit := by
  intro recorded built recordedDocument builtDocument
  rcases script_mirrored node with
    ⟨handles, ids, recording, tree, kept, granted, mirrors⟩
  refine ⟨?_, ?_, ?_, ?_⟩
  · exact
      EndsAlike.compile numbering WidgetTree.numbering Handle.widgetId
        number_renamed kept granted
  · have left : recorded.2.toolkit = recording :=
      (toolkit_compile numbering node _).trans (congrArg Prod.snd kept)
    have leftToo : built.2.toolkit = tree :=
      (toolkit_compile WidgetTree.numbering node _).trans
        (congrArg Prod.snd granted)
    rw [left, leftToo]
    exact mirrors
  · exact
      EndsAlike.compileDocument numbering WidgetTree.numbering Handle.widgetId
        number_renamed kept granted
  · have left : recordedDocument.2.toolkit = recording :=
      (toolkit_compileDocument numbering node _).trans (congrArg Prod.snd kept)
    have leftToo : builtDocument.2.toolkit = tree :=
      (toolkit_compileDocument WidgetTree.numbering node _).trans
        (congrArg Prod.snd granted)
    rw [left, leftToo]
    exact mirrors

end Recording

end WidgetTemplate
