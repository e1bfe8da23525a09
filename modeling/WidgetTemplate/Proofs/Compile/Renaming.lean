import WidgetTemplate.Proofs.Compile.Numbering

/-!
# Renaming handles

A script and the pieces of its items carry handles without looking at them.
If two toolkits number what they build, and one numbering is the other one
with its handles renamed, then so are scripts, pieces and results.  Whenever
both toolkits grant the script of a template, they therefore end alike, which
is what `EndsAlike` says: in results that are related, or in one and the same
error, and that error is none of a toolkit's own.
-/

namespace WidgetTemplate

variable {η θ : Type}

/-! ## Requests, results and walks with other handles -/

def Request.map (rename : η → θ) : Request η → Request θ
  | .toplevel kind => .toplevel kind
  | .container kind parent => .container kind (parent.map rename)
  | .leaf kind parent text => .leaf kind (parent.map rename) text

def Piece.map (rename : η → θ) : Piece η → Piece θ
  | .text content => .text content
  | .widget handle => .widget (rename handle)

namespace Compiled

mutual

/-- A result with every handle in it renamed. -/
def map (rename : η → θ) : Compiled η → Compiled θ
  | .text content => .text content
  | .widget handle => .widget (rename handle)
  | .sequence items => .sequence (mapAll rename items)

def mapAll (rename : η → θ) : List (Compiled η) → List (Compiled θ)
  | [] => []
  | item :: rest => item.map rename :: mapAll rename rest

end

variable (rename : η → θ)

theorem mapAll_pieces (pieces : List (Piece η)) :
    mapAll rename (pieces.map Piece.compiled) =
      (pieces.map (Piece.map rename)).map Piece.compiled := by
  induction pieces with
  | nil => rfl
  | cons piece rest induction =>
      simp only [List.map_cons, mapAll, induction]
      cases piece with
      | text content => rfl
      | widget handle => rfl

theorem map_ofPieces (pieces : List (Piece η)) :
    (ofPieces pieces).map rename = ofPieces (pieces.map (Piece.map rename)) := by
  match pieces with
  | [] => rfl
  | [.text content] => rfl
  | [.widget handle] => rfl
  | first :: second :: rest =>
      exact congrArg sequence (mapAll_pieces rename (first :: second :: rest))

theorem shape_ofPieces_map (pieces : List (Piece η)) :
    (ofPieces (pieces.map (Piece.map rename))).shape =
      (ofPieces pieces).shape := by
  match pieces with
  | [] => rfl
  | [.text content] => rfl
  | [.widget handle] => rfl
  | first :: second :: rest => simp [ofPieces, shape]

end Compiled

def Walk.map (rename : η → θ) (walk : Walk η) : Walk θ where
  made := walk.made
  opened := walk.opened.map rename

def Script.map (rename : η → θ) (script : Script η) : Script θ where
  requests := script.requests.map (Request.map rename)
  fault := script.fault
  last := script.last.map rename

/-! ## Scripts and pieces of a renamed numbering -/

section Renamed

variable (rename : η → θ) {number : Nat → η} {other : Nat → θ}
variable (renamed : ∀ index, other index = rename (number index))
variable (outer : Option η)

theorem Walk.parent_map (walk : Walk η) :
    (walk.map rename).parent (outer.map rename) =
      (walk.parent outer).map rename := by
  rcases walk with ⟨made, _ | ⟨innermost, rest⟩⟩
  · rfl
  · rfl

theorem Walk.request?_map (walk : Walk η) (visit : Visit) :
    (walk.map rename).request? (outer.map rename) visit =
      (walk.request? outer visit).map (Request.map rename) := by
  cases visit with
  | opening name =>
      simp only [request?, parent_map]
      rcases Element.named? name with _ | (kind | kind | kind)
      · rfl
      · rfl
      · rfl
      · rfl
  | closing name items =>
      simp only [request?, parent_map]
      rcases Element.named? name with _ | (kind | kind | kind)
      · rfl
      · rfl
      · rfl
      · rcases items with _ | ⟨content | ⟨_, _, _⟩, _ | ⟨_, _⟩⟩
        · rfl
        · rfl
        · rfl
        · rfl
        · rfl

include renamed

theorem Walk.advance_map (walk : Walk η) (visit : Visit) :
    (walk.map rename).advance other visit =
      (walk.advance number visit).map rename := by
  have entered :
      (walk.map rename).enter other = (walk.enter number).map rename := by
    simp [enter, map, renamed]
  have left : (walk.map rename).leave = walk.leave.map rename := by
    simp [leave, map, List.map_tail]
  cases visit with
  | opening name =>
      simp only [advance]
      rcases Element.named? name with _ | (kind | kind | kind)
      · rfl
      · exact entered
      · exact entered
      · rfl
  | closing name items =>
      simp only [advance]
      rcases Element.named? name with _ | (kind | kind | kind)
      · rfl
      · exact left
      · exact left
      · rfl

/-- A walk with renamed handles writes the script with renamed handles. -/
theorem Walk.script_map (walk : Walk η) (visits : List Visit) :
    (walk.map rename).script other (outer.map rename) visits =
      (walk.script number outer visits).map rename := by
  induction visits generalizing walk with
  | nil => rfl
  | cons visit rest induction =>
      simp only [script]
      cases visit.fault? with
      | some fault => rfl
      | none =>
          simp only [request?_map, advance_map rename renamed, induction,
            Script.map, List.map_append]
          cases walk.request? outer visit with
          | none => rfl
          | some request => rfl

theorem Node.script_map (node : Node) :
    node.script other (outer.map rename) = (node.script number outer).map rename :=
  Walk.script_map rename renamed outer Walk.start node.visits

theorem Item.piecesFrom_map (first : Nat) (items : List Item) :
    piecesFrom other first items =
      (piecesFrom number first items).map (Piece.map rename) := by
  induction items generalizing first with
  | nil => rfl
  | cons item rest induction =>
      cases item with
      | text content => simp [piecesFrom, induction, Piece.map]
      | tag name attributes body =>
          simp [piecesFrom, induction, Piece.map, renamed]

end Renamed

/-! ## Ending alike -/

variable {σ τ ε δ α β : Type}

/--
Two compiles end alike when both end in values that are related, or both fail
for the same reason, and the reason is not that their toolkits refused.
-/
inductive EndsAlike (related : α → β → Prop) :
    Except (CompileError ε) α → Except (CompileError δ) β → Prop where
  | ok {value : α} {other : β} (same : related value other) :
      EndsAlike related (.ok value) (.ok other)
  | classification (name : String) :
      EndsAlike related
        (.error (.classification name)) (.error (.classification name))
  | shape (element : String) (found : ResultShape) :
      EndsAlike related
        (.error (.shape element found)) (.error (.shape element found))
  | structural (found : ResultShape) :
      EndsAlike related
        (.error (.structural found)) (.error (.structural found))

namespace EndsAlike

theorem fault {related : α → β → Prop} (fault : BuildFault) :
    EndsAlike related
      (.error (fault.error : CompileError ε))
      (.error (fault.error : CompileError δ)) := by
  cases fault with
  | unregistered name => exact .classification name
  | notOneText name items => exact .shape name (Item.shape items)

theorem verdict {related : α → β → Prop} {value : α} {other : β}
    (node : Node) (same : related value other) :
    EndsAlike related
      (node.verdict value : Except (CompileError ε) α)
      (node.verdict other : Except (CompileError δ) β) := by
  unfold Node.verdict
  cases node.firstFault? with
  | some found => exact fault found
  | none => exact ok same

/-- Pieces with renamed handles make documents of the same shape. -/
theorem soleWidget (rename : η → θ) (pieces : List (Piece η))
    (toolkit : σ) (other : τ) :
    EndsAlike (fun handle renamed => rename handle = renamed)
      ((WidgetTemplate.soleWidget pieces : Effect σ ε η).runFrom toolkit).1
      ((WidgetTemplate.soleWidget (pieces.map (Piece.map rename)) :
        Effect τ δ θ).runFrom other).1 := by
  have mismatch (pieces : List (Piece η)) :
      EndsAlike (fun handle renamed => rename handle = renamed)
        (.error (.structural (Compiled.ofPieces pieces).shape) :
          Except (CompileError ε) η)
        (.error (.structural
          (Compiled.ofPieces (pieces.map (Piece.map rename))).shape) :
          Except (CompileError δ) θ) := by
    rw [Compiled.shape_ofPieces_map]
    exact structural _
  rcases pieces with _ | ⟨content | handle, _ | ⟨next, rest⟩⟩
  · exact mismatch _
  · exact mismatch _
  · exact mismatch _
  · exact ok rfl
  · exact mismatch _

section Granted

variable {factory : WidgetFactory σ η ε} {rival : WidgetFactory τ θ δ}
variable (numbering : Numbering factory) (renumbering : Numbering rival)
variable (rename : η → θ)
variable {node : Node} {toolkit after : σ} {other left : τ}
variable {handles : List η} {images : List θ}
variable
  (renamed : ∀ index,
    renumbering.number (renumbering.count other) index =
      rename (numbering.number (numbering.count toolkit) index))

include renamed

/-- A template ends alike in two toolkits that grant its script. -/
theorem compile {context : Context η} {image : Context θ}
    (granted :
      (Request.askAll factory
          (node.script (numbering.number (numbering.count toolkit))
            context.parent).requests).runFrom toolkit = (.ok handles, after))
    (grantedToo :
      (Request.askAll rival
          (node.script (renumbering.number (renumbering.count other))
            image.parent).requests).runFrom other = (.ok images, left)) :
    EndsAlike (fun result image => result.map rename = image)
      (Effect.runFrom (WidgetTemplate.compile factory node)
        { toolkit
          context }).1
      (Effect.runFrom (WidgetTemplate.compile rival node)
        { toolkit := other
          context := image }).1 := by
  have ended := congrArg Prod.fst (compile_of_granted numbering granted)
  have endedToo := congrArg Prod.fst (compile_of_granted renumbering grantedToo)
  simp only [observed] at ended endedToo
  rw [ended, endedToo, Item.piecesFrom_map rename renamed,
    ← Compiled.map_ofPieces]
  exact verdict node rfl

/-- A document ends alike in two toolkits that grant its script. -/
theorem compileDocument
    (granted :
      (Request.askAll factory
          (node.script (numbering.number (numbering.count toolkit))
            none).requests).runFrom toolkit = (.ok handles, after))
    (grantedToo :
      (Request.askAll rival
          (node.script (renumbering.number (renumbering.count other))
            none).requests).runFrom other = (.ok images, left)) :
    EndsAlike (fun handle image => rename handle = image)
      (WidgetTemplate.compileDocument factory node toolkit).1
      (WidgetTemplate.compileDocument rival node other).1 := by
  have ended := congrArg Prod.fst (compileDocument_of_granted numbering granted)
  have endedToo :=
    congrArg Prod.fst (compileDocument_of_granted renumbering grantedToo)
  simp only [observed] at ended endedToo
  rw [ended, endedToo, Item.piecesFrom_map rename renamed]
  cases node.firstFault? with
  | some found => exact fault found
  | none => exact soleWidget rename _ after left

end Granted

end EndsAlike

end WidgetTemplate
