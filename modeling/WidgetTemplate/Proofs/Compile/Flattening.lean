import WidgetTemplate.Proofs.Compile.Construction
import WidgetTemplate.Recording
import WidgetTemplate.Source.Document

/-!
# What a compile does not depend on

Sequences only group nodes, and attributes are carried along without being
read.  Flattening a template before it is compiled, on the one hand, and
splicing results while it is compiled, on the other, therefore come to the
same: two templates that flatten to one template up to attributes are built
alike, and they fail alike.
-/

namespace WidgetTemplate

variable {σ η ε : Type}

/-! ## Nodes without attributes -/

namespace Node

mutual

/-- The node with the attributes of every element erased. -/
def bare : Node → Node
  | .text content => .text content
  | .sequence children => .sequence (bareAll children)
  | .tag name _ body => .tag name .empty body.bare

def bareAll : List Node → List Node
  | [] => []
  | child :: rest => child.bare :: bareAll rest

end

end Node

/-! ## Construction of flattened and of bare nodes -/

theorem constructAll_append
    (factory : WidgetFactory σ η ε) (parent : Option η)
    (left right : List Node) :
    constructAll factory parent (left ++ right) =
      (do let pieces ← constructAll factory parent left
          let later ← constructAll factory parent right
          return pieces ++ later) := by
  induction left with
  | nil => simp [constructAll]
  | cons child rest induction =>
      simp only [List.cons_append, constructAll, induction, bind_assoc,
        pure_bind, List.append_assoc]

theorem constructAll_parts
    (factory : WidgetFactory σ η ε) (parent : Option η) (node : Node) :
    constructAll factory parent node.parts = construct factory parent node := by
  cases node with
  | text content => simp [Node.parts, constructAll]
  | sequence children => simp [Node.parts, construct]
  | tag name attributes body => simp [Node.parts, constructAll]

/-- Leaving out the sequence around a single node changes nothing. -/
theorem construct_ofParts
    (factory : WidgetFactory σ η ε) (parent : Option η)
    (nodes : List Node) :
    construct factory parent (Node.ofParts nodes) =
      constructAll factory parent nodes := by
  match nodes with
  | [] => simp [Node.ofParts, construct]
  | [only] => simp [Node.ofParts, constructAll]
  | _ :: _ :: _ => simp [Node.ofParts, construct]

mutual

/-- A flattened node is built as the node is. -/
theorem construct_flatten
    (factory : WidgetFactory σ η ε) (parent : Option η) :
    (node : Node) →
      construct factory parent node.flatten = construct factory parent node
  | .text content => rfl
  | .sequence children => by
      unfold Node.flatten
      rw [construct_ofParts, constructAll_flattenAll factory parent children]
      simp only [construct]
  | .tag name attributes body => by
      unfold Node.flatten construct
      -- The body is built under another parent if the element is no leaf.
      have inside := fun above => construct_flatten factory above body
      simp only [inside]

theorem constructAll_flattenAll
    (factory : WidgetFactory σ η ε) (parent : Option η) :
    (children : List Node) →
      constructAll factory parent (Node.flattenAll children) =
        constructAll factory parent children
  | [] => rfl
  | child :: rest => by
      unfold Node.flattenAll
      rw [constructAll_append, constructAll_parts,
        construct_flatten factory parent child,
        constructAll_flattenAll factory parent rest]
      simp only [constructAll]

end

mutual

/-- No attribute is read while a node is built. -/
theorem construct_bare
    (factory : WidgetFactory σ η ε) (parent : Option η) :
    (node : Node) →
      construct factory parent node.bare = construct factory parent node
  | .text content => rfl
  | .sequence children => by
      unfold Node.bare construct
      exact constructAll_bareAll factory parent children
  | .tag name attributes body => by
      unfold Node.bare construct
      have inside := fun above => construct_bare factory above body
      simp only [inside]

theorem constructAll_bareAll
    (factory : WidgetFactory σ η ε) (parent : Option η) :
    (children : List Node) →
      constructAll factory parent (Node.bareAll children) =
        constructAll factory parent children
  | [] => rfl
  | child :: rest => by
      unfold Node.bareAll constructAll
      rw [construct_bare factory parent child,
        constructAll_bareAll factory parent rest]

end

/--
Nodes that flatten to one node up to attributes are built alike under every
parent.
-/
theorem construct_congr
    {left right : Node} (same : left.flatten.bare = right.flatten.bare)
    (factory : WidgetFactory σ η ε) (parent : Option η) :
    construct factory parent left = construct factory parent right := by
  calc construct factory parent left
      = construct factory parent left.flatten.bare := by
        rw [construct_bare, construct_flatten]
    _ = construct factory parent right.flatten.bare := by
        rw [same]
    _ = construct factory parent right := by
        rw [construct_bare, construct_flatten]

theorem constructDocument_flatten
    (factory : WidgetFactory σ η ε) (document : Node) :
    constructDocument factory document.flatten =
      constructDocument factory document := by
  unfold constructDocument
  rw [construct_flatten]

/-! ## Compiling and building -/

theorem observed_compileDocument_flatten
    (factory : WidgetFactory σ η ε) (document : Node) (toolkit : σ) :
    observed (compileDocument factory document.flatten toolkit) =
      observed (compileDocument factory document toolkit) := by
  rw [observed_compileDocument, observed_compileDocument,
    constructDocument_flatten]

/-- A document that is read is the same template, flattened or not. -/
theorem SourceDocument.template_withFlatten (document : SourceDocument) :
    (document.withFlatten true).template =
      (document.withFlatten false).template.map Node.flatten := by
  simp only [template, withFlatten, Stage.standard]
  cases Stage.read document.format document.text with
  | error error => rfl
  | ok node => rfl

/--
Flattening and attributes are not observed.  Templates that flatten to one
template up to attributes are compiled alike by every toolkit, from every
state: to the same result or the same error, with the same effect on the
toolkit, and under the same current parent afterwards.  So a template and its
flattened form are compiled alike, and a document is built alike whether or
not it is flattened first.
-/
theorem compile_eq_of_flatten_bare_eq (factory : WidgetFactory σ η ε) :
    (∀ left right : Node, left.flatten.bare = right.flatten.bare →
      ∀ state : BuildState σ η,
        observed (Effect.runFrom (compile factory left) state) =
          observed (Effect.runFrom (compile factory right) state)) ∧
    (∀ (node : Node) (state : BuildState σ η),
      observed (Effect.runFrom (compile factory node.flatten) state) =
        observed (Effect.runFrom (compile factory node) state)) ∧
    (∀ (document : Node) (toolkit : σ),
      observed (compileDocument factory document.flatten toolkit) =
        observed (compileDocument factory document toolkit)) ∧
    (∀ (document : SourceDocument) (toolkit : σ),
      observed ((document.withFlatten true).build factory toolkit) =
        observed ((document.withFlatten false).build factory toolkit)) := by
  refine ⟨?_, ?_, observed_compileDocument_flatten factory, ?_⟩
  · intro left right same state
    rw [observed_compile, observed_compile, construct_congr same]
  · intro node state
    rw [observed_compile, observed_compile, construct_flatten]
  · intro document toolkit
    unfold SourceDocument.build
    rw [SourceDocument.template_withFlatten]
    cases (document.withFlatten false).template with
    | error error => rfl
    | ok node =>
        have same := observed_compileDocument_flatten factory node toolkit
        exact congrArg (Prod.map (Except.mapError DocumentError.compile) id) same

/-- A box in a needless sequence and with an attribute, and the plain box. -/
theorem compile_eq_of_flatten_bare_eq_box :
    let left : Node :=
      .sequence
        [.sequence [],
          .tag "vbox" (SortedMap.ofList [("width", .integer 3)])
            (.sequence [.tag "push_button" .empty (.sequence [.text "ok"])])]
    let right : Node :=
      .tag "vbox" .empty (.tag "push_button" .empty (.text "ok"))
    let state : BuildState Recording Handle :=
      { toolkit := Recording.empty
        context := Context.start none }
    left.flatten.bare = right.flatten.bare ∧
      observed (Effect.runFrom (compile Recording.factory left) state) =
        observed (Effect.runFrom (compile Recording.factory right) state) :=
  ⟨rfl, (compile_eq_of_flatten_bare_eq Recording.factory).1 _ _ rfl _⟩

end WidgetTemplate
