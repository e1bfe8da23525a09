import Mathlib.Data.List.Forall2
import WidgetTemplate.Proofs.Compile.Script

/-!
# Scripts and outlines

A template without a fault asks for the elements of its outline, one by one
and in the order of the outline.  That the two orders agree is due to leaves:
a leaf is requested when it is closed, but nothing was requested since it was
opened, because its body is one text.
-/

namespace WidgetTemplate

variable {η : Type}

/--
What an element of an outline is built from, if elements are numbered by
`number` and the whole is built under `outer`.  A toplevel has no parent; any
other element has the innermost element around it as its parent.  A leaf has
the text that its body consists of.
-/
structure Entry.Describes
    (number : Nat → η) (outer : Option η) (entry : Entry)
    (origin : Origin η) : Prop where
  named : Element.named? entry.name = some origin.element
  parent_of_toplevel :
    origin.element.category = .toplevel → origin.parent = none
  parent_of_inner :
    origin.element.category ≠ .toplevel →
      origin.parent = (entry.enclosing.map number).or outer
  text_of_leaf :
    origin.element.category = .leaf →
      ∃ content, entry.items = [.text content] ∧ origin.text = some content
  no_text :
    origin.element.category ≠ .leaf → origin.text = none


namespace Entry.Describes

variable {number : Nat → η} {outer : Option η} {entry : Entry} {origin : Origin η}

/-- An element is built under one that encloses it or under the whole. -/
theorem within (described : entry.Describes number outer origin) :
    origin.Within number outer := by
  by_cases toplevel : origin.element.category = .toplevel
  · exact Or.inl (described.parent_of_toplevel toplevel)
  · have inner := described.parent_of_inner toplevel
    cases enclosing : entry.enclosing with
    | none =>
        rw [enclosing] at inner
        exact Or.inr (Or.inr inner)
    | some index =>
        rw [enclosing] at inner
        exact Or.inr (Or.inl ⟨index, inner⟩)

/-- What stands in nothing has no parent if the whole has none. -/
theorem parent_eq_none
    (described : entry.Describes number none origin)
    (free : entry.enclosing = none) :
    origin.parent = none := by
  by_cases toplevel : origin.element.category = .toplevel
  · exact described.parent_of_toplevel toplevel
  · rw [described.parent_of_inner toplevel, free]
    rfl

/-- An element inside another has a parent, unless it is a toplevel. -/
theorem toplevel_of_parent_eq_none
    (described : entry.Describes number outer origin)
    (enclosed : entry.enclosing.isSome)
    (parentless : origin.parent = none) :
    origin.element.category = .toplevel := by
  by_contra inner
  rcases Option.isSome_iff_exists.mp enclosed with ⟨index, enclosing⟩
  rw [described.parent_of_inner inner, enclosing] at parentless
  cases parentless

end Entry.Describes

namespace Walk

variable (number : Nat → η) (outer : Option η)

theorem scope_describes {walk : Walk η} {enclosing : Option Nat}
    (under : walk.parent outer = (enclosing.map number).or outer)
    {name : String} {request : Request η}
    (asks : walk.request? outer (.opening name) = some request)
    (items : List Item) :
    Entry.Describes number outer { name, enclosing, items } request.origin := by
  rcases scope_cases outer walk asks with
    ⟨kind, found, rfl⟩ | ⟨kind, found, rfl⟩
  · constructor
    · exact found
    · intro _
      rfl
    · intro other
      exact (other rfl).elim
    · intro leaf
      cases leaf
    · intro _
      rfl
  · constructor
    · exact found
    · intro toplevel
      cases toplevel
    · intro _
      exact under
    · intro leaf
      cases leaf
    · intro _
      rfl

/-- A leaf that holds one text is requested as its entry describes it. -/
theorem leaf_describes {walk : Walk η} {enclosing : Option Nat}
    (under : walk.parent outer = (enclosing.map number).or outer)
    {name : String} {kind : LeafKind}
    (found : Element.named? name = some (.leaf kind)) (content : String) :
    Entry.Describes number outer
      { name, enclosing
        items := [.text content] }
      (Request.leaf kind (walk.parent outer) content).origin := by
  constructor
  · exact found
  · intro toplevel
    cases toplevel
  · intro _
    exact under
  · intro _
    exact ⟨content, rfl, rfl⟩
  · intro other
    exact (other rfl).elim

mutual

/--
A walk through a node without fault makes the requests that the outline of
the node describes, in order.
-/
theorem requests_describe (walk : Walk η) (enclosing : Option Nat)
    (under : walk.parent outer = (enclosing.map number).or outer) :
    (node : Node) → (walk.script number outer node.visits).fault = none →
      List.Forall₂
        (fun entry request =>
          Entry.Describes number outer entry (Request.origin request))
        (node.outlineFrom enclosing walk.made)
        (walk.script number outer node.visits).requests
  | .text content, _ => List.Forall₂.nil
  | .sequence children, faultless =>
      requestsAll_describe walk enclosing under children faultless
  | .tag name attributes body, faultless => by
      rcases name_cases outer walk name with
        unknown | ⟨request, asks⟩ | ⟨kind, found⟩
      · simp [script_unregistered number outer walk unknown] at faultless
      · rw [script_scope number outer walk asks] at faultless ⊢
        rcases Script.fault_andThen_eq_none.mp faultless with ⟨inside, -⟩
        have described :=
          requests_describe (walk.enter number) (some walk.made) rfl body inside
        rw [Script.andThen_of_faultless inside]
        simp only [List.append_nil]
        exact List.Forall₂.cons
          (scope_describes number outer under asks body.items) described
      · rw [script_leaf number outer walk found] at faultless ⊢
        rcases Script.fault_andThen_eq_none.mp faultless with ⟨inside, closed⟩
        have ended := last_script number outer walk body inside
        rw [Script.andThen_of_faultless inside]
        rcases script_closing_leaf number outer
            (walk.script number outer body.visits).last found body.items with
          ⟨content, only, closing⟩ | ⟨-, closing⟩
        · have empty := Node.tagCount_eq_zero only
          have silent :
              (walk.script number outer body.visits).requests = [] := by
            apply List.eq_nil_of_length_eq_zero
            rw [length_requests number outer walk inside, empty]
          rw [closing, silent, ended, Node.outlineFrom,
            Node.outlineFrom_eq_nil empty, only]
          exact List.Forall₂.cons
            (leaf_describes number outer under found content)
            List.Forall₂.nil
        · simp [closing] at closed

theorem requestsAll_describe (walk : Walk η) (enclosing : Option Nat)
    (under : walk.parent outer = (enclosing.map number).or outer) :
    (children : List Node) →
      (walk.script number outer (Node.visitsAll children)).fault = none →
        List.Forall₂
          (fun entry request =>
            Entry.Describes number outer entry (Request.origin request))
          (Node.outlineAllFrom enclosing walk.made children)
          (walk.script number outer (Node.visitsAll children)).requests
  | [], _ => List.Forall₂.nil
  | child :: rest, faultless => by
      rw [Node.visitsAll, script_append] at faultless ⊢
      rcases Script.fault_andThen_eq_none.mp faultless with ⟨head, tail⟩
      have ended := last_script number outer walk child head
      rw [ended] at tail
      rw [Script.andThen_of_faultless head, ended, Node.outlineAllFrom]
      have described := requests_describe walk enclosing under child head
      have later :=
        requestsAll_describe
          { walk with made := walk.made + child.tagCount } enclosing under
          rest tail
      exact List.rel_append described later

end

end Walk

/--
The requests of the script of a template without fault are described by the
outline of the template, in order.
-/
theorem Node.requests_describe (number : Nat → η) (outer : Option η)
    {node : Node} (faultless : node.firstFault? = none) :
    List.Forall₂
      (fun entry request =>
        Entry.Describes number outer entry (Request.origin request))
      node.outline (node.script number outer).requests :=
  Walk.requests_describe number outer Walk.start none rfl node
    ((node.fault_script number outer).trans faultless)

end WidgetTemplate
