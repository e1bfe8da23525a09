import WidgetTemplate.Node.Flatten

/-!
# Flattening computes a canonical form

Apart from how its sequences group it, a template is its stream of tokens:
texts, openings of elements and closings of elements, depth first.  Flattening
keeps that stream and leaves a template in canonical form, where no sequence
stands directly in a sequence and none holds exactly one node.

A canonical template can be read back from its tokens by a machine with a
stack of the elements that are open.  So the tokens of a template already
determine its flattened form, which is `flatten_eq_rebuild`, and two templates
flatten to one template exactly when they have one stream.
-/

namespace WidgetTemplate.Node

/-! ## Tokens and canonical templates -/

/-- A part of a template as it is met depth first. -/
inductive Token where
  | text (content : String)
  | opening (name : String) (attributes : Attributes)
  | closing

def Token.isOpening : Token → Bool
  | .opening _ _ => true
  | _ => false

mutual

/-- The tokens of a node; sequences leave no trace in them. -/
def tokens : Node → List Token
  | .text content => [.text content]
  | .sequence children => tokensAll children
  | .tag name attributes body =>
      .opening name attributes :: (body.tokens ++ [.closing])

def tokensAll : List Node → List Token
  | [] => []
  | child :: rest => child.tokens ++ tokensAll rest

end

def IsSequence (node : Node) : Prop :=
  ∃ children, node = .sequence children

mutual

/--
At any depth, no sequence stands directly in a sequence and no sequence has
exactly one node.
-/
def IsCanonical : Node → Prop
  | .text _ => True
  | .sequence children => children.length ≠ 1 ∧ AreParts children
  | .tag _ _ body => body.IsCanonical

/-- The nodes may stand in a sequence of a canonical template. -/
def AreParts : List Node → Prop
  | [] => True
  | child :: rest => ¬ child.IsSequence ∧ child.IsCanonical ∧ AreParts rest

end

mutual

/-- The declared elements of a node are the openings among its tokens. -/
theorem tagCount_eq_countP : (node : Node) →
    node.tagCount = node.tokens.countP Token.isOpening
  | .text content => rfl
  | .sequence children => tagCountAll_eq_countP children
  | .tag name attributes body => by
      simp [tagCount, tokens, tagCount_eq_countP body, Token.isOpening,
        List.countP_cons, List.countP_append, Nat.add_comm]

theorem tagCountAll_eq_countP : (children : List Node) →
    tagCountAll children = (tokensAll children).countP Token.isOpening
  | [] => rfl
  | child :: rest => by
      simp [tagCountAll, tokensAll, tagCount_eq_countP child,
        tagCountAll_eq_countP rest]

end

theorem tokensAll_append (left right : List Node) :
    tokensAll (left ++ right) = tokensAll left ++ tokensAll right := by
  induction left with
  | nil => rfl
  | cons child rest induction =>
      simp only [List.cons_append, tokensAll, induction, List.append_assoc]

theorem areParts_append {left right : List Node} :
    AreParts (left ++ right) ↔ AreParts left ∧ AreParts right := by
  induction left with
  | nil => simp [AreParts]
  | cons child rest induction =>
      simp only [List.cons_append, AreParts, induction, and_assoc]

/-! ## Nodes and their parts -/

@[simp]
theorem tokensAll_parts (node : Node) : tokensAll node.parts = node.tokens := by
  cases node with
  | text content => rfl
  | sequence children => rfl
  | tag name attributes body => simp [parts, tokensAll, tokens]

@[simp]
theorem tokens_ofParts (nodes : List Node) :
    (ofParts nodes).tokens = tokensAll nodes := by
  match nodes with
  | [] => rfl
  | [only] => simp [ofParts, tokensAll]
  | _ :: _ :: _ => rfl

theorem IsCanonical.areParts {node : Node} (canonical : node.IsCanonical) :
    AreParts node.parts := by
  cases node with
  | text content => simp [parts, AreParts, IsSequence, IsCanonical]
  | sequence children => exact canonical.2
  | tag name attributes body =>
      simpa [parts, AreParts, IsSequence, IsCanonical] using canonical

theorem AreParts.isCanonical_ofParts {nodes : List Node}
    (allowed : AreParts nodes) : (ofParts nodes).IsCanonical := by
  match nodes, allowed with
  | [], allowed => exact ⟨by simp, allowed⟩
  | [only], allowed => exact allowed.2.1
  | first :: second :: rest, allowed => exact ⟨by simp, allowed⟩

/-- A canonical node is made of its parts in one way only. -/
theorem IsCanonical.ofParts_parts {node : Node} (canonical : node.IsCanonical) :
    ofParts node.parts = node := by
  cases node with
  | text content => rfl
  | tag name attributes body => rfl
  | sequence children =>
      match children, canonical with
      | [], _ => rfl
      | [only], canonical => exact absurd rfl canonical.1
      | _ :: _ :: _, _ => rfl

theorem AreParts.parts_ofParts {nodes : List Node} (allowed : AreParts nodes) :
    (ofParts nodes).parts = nodes := by
  match nodes, allowed with
  | [], _ => rfl
  | [.text content], _ => rfl
  | [.tag name attributes body], _ => rfl
  | [.sequence children], allowed => exact absurd ⟨children, rfl⟩ allowed.1
  | _ :: _ :: _, _ => rfl

/-! ## What flattening keeps and what it achieves -/

mutual

@[simp]
theorem tokens_flatten : (node : Node) → node.flatten.tokens = node.tokens
  | .text content => rfl
  | .sequence children => by
      rw [flatten, tokens_ofParts, tokensAll_flattenAll children, tokens]
  | .tag name attributes body => by
      rw [flatten, tokens, tokens_flatten body, tokens]

theorem tokensAll_flattenAll : (children : List Node) →
    tokensAll (flattenAll children) = tokensAll children
  | [] => rfl
  | child :: rest => by
      rw [flattenAll, tokensAll_append, tokensAll_parts, tokens_flatten child,
        tokensAll_flattenAll rest, tokensAll]

end

mutual

theorem isCanonical_flatten : (node : Node) → node.flatten.IsCanonical
  | .text _ => trivial
  | .sequence children => (areParts_flattenAll children).isCanonical_ofParts
  | .tag _ _ body => isCanonical_flatten body

theorem areParts_flattenAll : (children : List Node) →
    AreParts (flattenAll children)
  | [] => trivial
  | child :: rest =>
      areParts_append.mpr
        ⟨(isCanonical_flatten child).areParts, areParts_flattenAll rest⟩

end

mutual

theorem IsCanonical.flatten_eq : {node : Node} → node.IsCanonical →
    node.flatten = node
  | .text content, _ => rfl
  | .sequence children, canonical => by
      rw [flatten, AreParts.flattenAll_eq canonical.2]
      exact canonical.ofParts_parts
  | .tag name attributes body, canonical => by
      have inside : body.flatten = body := IsCanonical.flatten_eq canonical
      rw [flatten, inside]

theorem AreParts.flattenAll_eq : {nodes : List Node} → AreParts nodes →
    flattenAll nodes = nodes
  | [], _ => rfl
  | child :: rest, ⟨single, canonical, later⟩ => by
      have alone : child.parts = [child] := by
        cases child with
        | text content => rfl
        | sequence children => exact absurd ⟨children, rfl⟩ single
        | tag name attributes body => rfl
      rw [flattenAll, IsCanonical.flatten_eq canonical, alone,
        AreParts.flattenAll_eq later]
      rfl

end

/-! ## Reading a canonical template from its tokens -/

/-- An element that is open, and the nodes in front of it, the latest first. -/
structure Enclosure where
  name : String
  attributes : Attributes
  before : List Node

/--
The canonical template of tokens.  The nodes that were read inside the
innermost open element are in `done`, the latest first.
-/
def rebuild (done : List Node) : List Enclosure → List Token → Node
  | _, [] => ofParts done.reverse
  | enclosures, .text content :: later =>
      rebuild (.text content :: done) enclosures later
  | enclosures, .opening name attributes :: later =>
      rebuild [] (⟨name, attributes, done⟩ :: enclosures) later
  | ⟨name, attributes, before⟩ :: enclosures, .closing :: later =>
      rebuild
        (.tag name attributes (ofParts done.reverse) :: before) enclosures later
  | [], .closing :: _ => ofParts done.reverse

mutual

/-- The tokens of a node are read as the parts of its flattened form. -/
theorem rebuild_tokens : (node : Node) →
    (done : List Node) → (enclosures : List Enclosure) → (later : List Token) →
      rebuild done enclosures (node.tokens ++ later) =
        rebuild (node.flatten.parts.reverse ++ done) enclosures later
  | .text content, done, enclosures, later => rfl
  | .sequence children, done, enclosures, later => by
      rw [tokens, rebuild_tokensAll children, flatten,
        (areParts_flattenAll children).parts_ofParts]
  | .tag name attributes body, done, enclosures, later => by
      have inside :=
        rebuild_tokens body [] (⟨name, attributes, done⟩ :: enclosures)
          (.closing :: later)
      simp only [tokens, List.cons_append, List.append_assoc,
        List.nil_append, rebuild, inside]
      -- The body is canonical, so its parts give it back.
      rw [List.append_nil, List.reverse_reverse,
        (isCanonical_flatten body).ofParts_parts]
      rfl

theorem rebuild_tokensAll : (children : List Node) →
    (done : List Node) → (enclosures : List Enclosure) → (later : List Token) →
      rebuild done enclosures (tokensAll children ++ later) =
        rebuild ((flattenAll children).reverse ++ done) enclosures later
  | [], done, enclosures, later => rfl
  | child :: rest, done, enclosures, later => by
      rw [tokensAll, List.append_assoc, rebuild_tokens child,
        rebuild_tokensAll rest, flattenAll, List.reverse_append,
        List.append_assoc]

end

/-- The tokens of a node determine its flattened form. -/
theorem flatten_eq_rebuild (node : Node) :
    node.flatten = rebuild [] [] node.tokens := by
  have read := rebuild_tokens node [] [] []
  rw [List.append_nil, List.append_nil] at read
  rw [read, rebuild, List.reverse_reverse,
    (isCanonical_flatten node).ofParts_parts]

theorem flatten_eq_iff (left right : Node) :
    left.flatten = right.flatten ↔ left.tokens = right.tokens := by
  constructor
  · intro same
    rw [← tokens_flatten left, same, tokens_flatten]
  · intro same
    rw [flatten_eq_rebuild, flatten_eq_rebuild, same]

theorem flatten_eq_self_iff (node : Node) :
    node.flatten = node ↔ node.IsCanonical := by
  constructor
  · intro fixed
    rw [← fixed]
    exact isCanonical_flatten node
  · intro canonical
    exact canonical.flatten_eq

/--
Flattening computes a canonical form.  A flattened template is canonical, and
it has the tokens of the template, hence as many declared elements.  Two
templates flatten to one template exactly when they have the same tokens.  So
flattening leaves exactly the canonical templates as they are, and flattening
twice is flattening once.
-/
theorem flatten_is_canonical_form (node : Node) :
    node.flatten.IsCanonical ∧
      node.flatten.tokens = node.tokens ∧
      node.flatten.tagCount = node.tagCount ∧
      (∀ other : Node,
        other.flatten = node.flatten ↔ other.tokens = node.tokens) ∧
      (node.flatten = node ↔ node.IsCanonical) ∧
      node.flatten.flatten = node.flatten := by
  refine ⟨isCanonical_flatten node, tokens_flatten node, ?_, ?_,
    flatten_eq_self_iff node, (isCanonical_flatten node).flatten_eq⟩
  · rw [tagCount_eq_countP, tokens_flatten, ← tagCount_eq_countP]
  · intro other
    exact flatten_eq_iff other node

end WidgetTemplate.Node
