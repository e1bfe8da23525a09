import WidgetTemplate.Proofs.Compile.Construction
import WidgetTemplate.Proofs.Node.DocumentOrder

/-!
# The script of a template

If a toolkit numbers what it builds, what a template will ask of it is known
beforehand.  `Walk.script` walks through the visits of a template in document
order: it opens and closes elements, writes down the requests with the handles
that the toolkit is going to hand out, and stops at the first fault.

A walk through a node without a fault counts the elements of the node and
leaves the same elements open as before, which is `Walk.last_script`.
-/

namespace WidgetTemplate

variable {η : Type}

/--
What is built is built under no parent, under something that `number` counts,
or under the parent of the whole.
-/
def Origin.Within (number : Nat → η) (outer : Option η) (origin : Origin η) :
    Prop :=
  origin.parent = none ∨
    (∃ index, origin.parent = some (number index)) ∨
    origin.parent = outer

/-! ## Walks and scripts -/

/-- Where a walk through a template stands. -/
structure Walk (η : Type) where
  made : Nat
  /-- The toplevels and containers that are open, innermost first. -/
  opened : List η

namespace Walk

def start : Walk η where
  made := 0
  opened := []

/-- The parent of what is built next, if `outer` is the parent of the whole. -/
def parent (outer : Option η) (walk : Walk η) : Option η :=
  walk.opened.head?.or outer

/-- The walk once a toplevel or container was requested and opened. -/
def enter (number : Nat → η) (walk : Walk η) : Walk η where
  made := walk.made + 1
  opened := number walk.made :: walk.opened

def leave (walk : Walk η) : Walk η :=
  { walk with opened := walk.opened.tail }

def pass (walk : Walk η) : Walk η :=
  { walk with made := walk.made + 1 }

/--
The request that a visit makes.  A toplevel or container is built when it is
opened, and a leaf when it is closed.
-/
def request? (outer : Option η) (walk : Walk η) : Visit → Option (Request η)
  | .opening name =>
      match Element.named? name with
      | some (.toplevel kind) => some (.toplevel kind)
      | some (.container kind) => some (.container kind (walk.parent outer))
      | _ => none
  | .closing name items =>
      match Element.named? name, items with
      | some (.leaf kind), [.text content] =>
          some (.leaf kind (walk.parent outer) content)
      | _, _ => none

/-- Where a walk stands after a visit, if requests are numbered by `number`. -/
def advance (number : Nat → η) (walk : Walk η) : Visit → Walk η
  | .opening name =>
      match Element.named? name with
      | some (.toplevel _) | some (.container _) => walk.enter number
      | _ => walk
  | .closing name _ =>
      match Element.named? name with
      | some (.leaf _) => walk.pass
      | some _ => walk.leave
      | none => walk

end Walk

structure Script (η : Type) where
  requests : List (Request η)
  /-- The fault that the walk stopped at. -/
  fault : Option BuildFault
  last : Walk η

/-- The script of a walk through visits, which stops at the first fault. -/
def Walk.script (number : Nat → η) (outer : Option η) (walk : Walk η) :
    List Visit → Script η
  | [] =>
      { requests := []
        fault := none
        last := walk }
  | visit :: rest =>
      match visit.fault? with
      | some fault =>
          { requests := []
            fault := some fault
            last := walk }
      | none =>
          let later := script number outer (walk.advance number visit) rest
          { later with
            requests := (walk.request? outer visit).toList ++ later.requests }

namespace Script

/-- A script, and if it has no fault what is written from its end on. -/
def andThen (first : Script η) (next : Walk η → Script η) : Script η :=
  match first.fault with
  | some _ => first
  | none =>
      { next first.last with
        requests := first.requests ++ (next first.last).requests }

theorem andThen_of_faultless
    {first : Script η} (faultless : first.fault = none)
    (next : Walk η → Script η) :
    first.andThen next =
      { next first.last with
        requests := first.requests ++ (next first.last).requests } := by
  unfold andThen
  rw [faultless]

theorem fault_andThen_eq_none
    {first : Script η} {next : Walk η → Script η} :
    (first.andThen next).fault = none ↔
      first.fault = none ∧ (next first.last).fault = none := by
  unfold andThen
  cases fault : first.fault with
  | some fault => simp [fault]
  | none => simp

end Script

namespace Walk

variable (number : Nat → η) (outer : Option η)

/-- A walk through visits and more visits writes one script after another. -/
theorem script_append (walk : Walk η) (left right : List Visit) :
    walk.script number outer (left ++ right) =
      (walk.script number outer left).andThen fun last =>
        last.script number outer right := by
  induction left generalizing walk with
  | nil => simp [Script.andThen, script]
  | cons visit rest induction =>
      simp only [List.cons_append, script]
      cases visit.fault? with
      | some fault => rfl
      | none =>
          simp only [induction, Script.andThen]
          cases stopped :
              ((walk.advance number visit).script number outer rest).fault with
          | some fault => simp [stopped]
          | none => simp [List.append_assoc]

theorem fault_script (walk : Walk η) (visits : List Visit) :
    (walk.script number outer visits).fault =
      visits.findSome? Visit.fault? := by
  induction visits generalizing walk with
  | nil => rfl
  | cons visit rest induction =>
      simp only [script, List.findSome?_cons]
      cases visit.fault? with
      | some fault => rfl
      | none => exact induction _

/--
What a visit without fault does: it makes no request and opens nothing, or it
makes one request, under the parent of the walk if under any, and opens
nothing but what it requested.
-/
theorem advance_cases (walk : Walk η) {visit : Visit}
    (faultless : visit.fault? = none) :
    (walk.request? outer visit = none ∧
        (walk.advance number visit).made = walk.made ∧
        (walk.advance number visit).opened ⊆ walk.opened) ∨
      ∃ request, walk.request? outer visit = some request ∧
        (request.parent = none ∨ request.parent = walk.parent outer) ∧
        (walk.advance number visit).made = walk.made + 1 ∧
        ∀ handle ∈ (walk.advance number visit).opened,
          handle ∈ walk.opened ∨
            handle = number walk.made ∧ request.element.category ≠ .leaf := by
  revert faultless
  cases visit with
  | opening name =>
      simp only [Visit.fault?, advance, request?]
      rcases Element.named? name with _ | (kind | kind | kind)
      · simp
      · simp +contextual [enter, Request.parent, Request.element, Element.category]
      · simp +contextual [enter, Request.parent, Request.element, Element.category]
      · simp
  | closing name items =>
      simp only [Visit.fault?, advance, request?]
      rcases Element.named? name with _ | (kind | kind | kind)
      · simp
      · simp [leave, (List.tail_sublist walk.opened).subset]
      · simp [leave, (List.tail_sublist walk.opened).subset]
      · rcases items with _ | ⟨content | ⟨_, _, _⟩, _ | ⟨_, _⟩⟩
        · simp
        · simp +contextual [pass, Request.parent]
        · simp
        · simp
        · simp

theorem made_script (walk : Walk η) (visits : List Visit) :
    (walk.script number outer visits).last.made =
      walk.made + (walk.script number outer visits).requests.length := by
  induction visits generalizing walk with
  | nil => rfl
  | cons visit rest induction =>
      simp only [script]
      cases faultless : visit.fault? with
      | some fault => rfl
      | none =>
          simp only [induction, List.length_append]
          rcases walk.advance_cases number outer faultless with
            ⟨asks, made, -⟩ | ⟨request, asks, -, made, -⟩
          · simp [asks, made]
          · simp only [asks, made, Option.toList_some, List.length_singleton]
            omega

/-- A walk that opened only what it numbered builds under that or the whole. -/
theorem parent_cases (walk : Walk η)
    (opened : ∀ handle ∈ walk.opened, ∃ index, handle = number index) :
    (∃ index, walk.parent outer = some (number index)) ∨
      walk.parent outer = outer := by
  rw [parent]
  cases innermost : walk.opened with
  | nil => exact Or.inr rfl
  | cons handle rest =>
      rcases opened handle (innermost ▸ List.mem_cons_self) with ⟨index, rfl⟩
      exact Or.inl ⟨index, rfl⟩

/-- A script builds under what it numbers itself or under the whole. -/
theorem requests_within (walk : Walk η) (visits : List Visit)
    (opened : ∀ handle ∈ walk.opened, ∃ index, handle = number index) :
    ∀ request ∈ (walk.script number outer visits).requests,
      request.origin.Within number outer := by
  induction visits generalizing walk with
  | nil =>
      intro request member
      cases member
  | cons visit rest induction =>
      rw [script]
      cases faultless : visit.fault? with
      | some fault =>
          intro request member
          cases member
      | none =>
          rcases walk.advance_cases number outer faultless with
            ⟨silent, -, kept⟩ | ⟨asked, asks, under, -, kept⟩
          · rw [silent]
            exact induction _ fun handle member => opened handle (kept member)
          · rw [asks]
            intro request member
            rcases List.mem_cons.mp member with rfl | later
            · rcases under with free | inner
              · exact Or.inl free
              · refine Or.inr ?_
                have same : request.origin.parent = walk.parent outer := inner
                rw [same]
                exact walk.parent_cases number outer opened
            · refine induction _ (fun handle member => ?_) request later
              rcases kept handle member with before | ⟨new, -⟩
              · exact opened handle before
              · exact ⟨walk.made, new⟩

/-! ### The visits of one element -/

/-- A name stands for nothing, opens a scope with a request, or is a leaf's. -/
theorem name_cases (walk : Walk η) (name : String) :
    Element.named? name = none ∨
      (∃ request, walk.request? outer (.opening name) = some request) ∨
      ∃ kind, Element.named? name = some (.leaf kind) := by
  simp only [request?]
  rcases Element.named? name with _ | (kind | kind | kind)
  · exact Or.inl rfl
  · exact Or.inr (Or.inl ⟨_, rfl⟩)
  · exact Or.inr (Or.inl ⟨_, rfl⟩)
  · exact Or.inr (Or.inr ⟨kind, rfl⟩)

theorem script_unregistered (walk : Walk η)
    {name : String} (unknown : Element.named? name = none)
    (attributes : Attributes) (body : Node) :
    walk.script number outer (Node.tag name attributes body).visits =
      { requests := []
        fault := some (.unregistered name)
        last := walk } := by
  simp [Node.visits, script, Visit.fault?, unknown]

theorem scope_cases (walk : Walk η)
    {name : String} {request : Request η}
    (asks : walk.request? outer (.opening name) = some request) :
    (∃ kind, Element.named? name = some (.toplevel kind) ∧
        request = .toplevel kind) ∨
      ∃ kind, Element.named? name = some (.container kind) ∧
        request = .container kind (walk.parent outer) := by
  revert asks
  simp only [request?]
  rcases Element.named? name with _ | (kind | kind | kind)
  · simp
  · intro asks
    exact Or.inl ⟨kind, rfl, (Option.some.inj asks).symm⟩
  · intro asks
    exact Or.inr ⟨kind, rfl, (Option.some.inj asks).symm⟩
  · simp

/-- A toplevel or container is requested, and its body is walked inside it. -/
theorem script_scope (walk : Walk η)
    {name : String} {request : Request η}
    (asks : walk.request? outer (.opening name) = some request)
    (attributes : Attributes) (body : Node) :
    walk.script number outer (Node.tag name attributes body).visits =
      let inside :=
        ((walk.enter number).script number outer body.visits).andThen fun last =>
          { requests := []
            fault := none
            last := last.leave }
      { inside with requests := request :: inside.requests } := by
  have opening :
      (Visit.opening name).fault? = none ∧
        walk.advance number (.opening name) = walk.enter number := by
    rcases scope_cases outer walk asks with ⟨kind, found, -⟩ | ⟨kind, found, -⟩
    · simp [Visit.fault?, advance, found]
    · simp [Visit.fault?, advance, found]
  have closing (last : Walk η) :
      last.script number outer [.closing name body.items] =
        { requests := []
          fault := none
          last := last.leave } := by
    rcases scope_cases outer walk asks with ⟨kind, found, -⟩ | ⟨kind, found, -⟩
    · simp [script, Visit.fault?, advance, request?, found]
    · simp [script, Visit.fault?, advance, request?, found]
  rw [Node.visits, script]
  simp only [opening, asks]
  rw [script_append]
  simp only [closing]
  rfl

/-- The body of a leaf is walked outside of it, and then it is closed. -/
theorem script_leaf (walk : Walk η)
    {name : String} {kind : LeafKind}
    (found : Element.named? name = some (.leaf kind))
    (attributes : Attributes) (body : Node) :
    walk.script number outer (Node.tag name attributes body).visits =
      (walk.script number outer body.visits).andThen fun last =>
        last.script number outer [.closing name body.items] := by
  have opening :
      (Visit.opening name).fault? = none ∧
        walk.request? outer (.opening name) = none ∧
        walk.advance number (.opening name) = walk := by
    simp [Visit.fault?, request?, advance, found]
  rw [Node.visits, script]
  simp only [opening]
  rw [script_append]
  rfl

/-- A leaf is requested when it is closed, if its body is one text. -/
theorem script_closing_leaf (last : Walk η)
    {name : String} {kind : LeafKind}
    (found : Element.named? name = some (.leaf kind)) (items : List Item) :
    (∃ content, items = [.text content] ∧
      last.script number outer [.closing name items] =
        { requests := [.leaf kind (last.parent outer) content]
          fault := none
          last := last.pass }) ∨
      (∀ content, items ≠ [.text content]) ∧
        last.script number outer [.closing name items] =
          { requests := []
            fault := some (.notOneText name items)
            last := last } := by
  match items with
  | [] => simp [script, Visit.fault?, found]
  | [.text content] =>
      exact Or.inl ⟨content, rfl, by
        simp [script, Visit.fault?, request?, advance, found]⟩
  | [.tag _ _ _] => simp [script, Visit.fault?, found]
  | _ :: _ :: _ => simp [script, Visit.fault?, found]

/-! ### The end of a walk through a node -/

mutual

/-- Without a fault, a walk through a node counts and closes its elements. -/
theorem last_script (walk : Walk η) :
    (node : Node) → (walk.script number outer node.visits).fault = none →
      (walk.script number outer node.visits).last =
        { walk with made := walk.made + node.tagCount }
  | .text content, _ => rfl
  | .sequence children, faultless =>
      last_scriptAll walk children faultless
  | .tag name attributes body, faultless => by
      rcases name_cases outer walk name with
        unknown | ⟨request, asks⟩ | ⟨kind, found⟩
      · simp [script_unregistered number outer walk unknown] at faultless
      · rw [script_scope number outer walk asks] at faultless ⊢
        rcases Script.fault_andThen_eq_none.mp faultless with ⟨inside, -⟩
        have ended := last_script (walk.enter number) body inside
        rw [Script.andThen_of_faultless inside, ended]
        simp only [leave, enter, List.tail_cons, Node.tagCount, Nat.add_assoc]
      · rw [script_leaf number outer walk found] at faultless ⊢
        rcases Script.fault_andThen_eq_none.mp faultless with ⟨inside, closed⟩
        have ended := last_script walk body inside
        rw [Script.andThen_of_faultless inside]
        rcases script_closing_leaf number outer
            (walk.script number outer body.visits).last found body.items with
          ⟨content, only, closing⟩ | ⟨-, closing⟩
        · have empty := Node.tagCount_eq_zero only
          simp only [closing, pass]
          simp [ended, Node.tagCount, empty]
        · simp [closing] at closed

theorem last_scriptAll (walk : Walk η) :
    (children : List Node) →
      (walk.script number outer (Node.visitsAll children)).fault = none →
        (walk.script number outer (Node.visitsAll children)).last =
          { walk with made := walk.made + Node.tagCountAll children }
  | [], _ => rfl
  | child :: rest, faultless => by
      rw [Node.visitsAll, script_append] at faultless ⊢
      rcases Script.fault_andThen_eq_none.mp faultless with ⟨head, tail⟩
      have ended := last_script walk child head
      rw [ended] at tail
      rw [Script.andThen_of_faultless head, ended]
      simp only [last_scriptAll _ rest tail, Node.tagCountAll, Nat.add_assoc]

end

theorem length_requests (walk : Walk η) {node : Node}
    (faultless : (walk.script number outer node.visits).fault = none) :
    (walk.script number outer node.visits).requests.length = node.tagCount := by
  have counted := walk.made_script number outer node.visits
  rw [walk.last_script number outer node faultless] at counted
  exact (Nat.add_left_cancel counted).symm

end Walk

/-! ## The script of a template -/

def Node.script (number : Nat → η) (outer : Option η) (node : Node) :
    Script η :=
  Walk.start.script number outer node.visits

namespace Node

variable (number : Nat → η) (outer : Option η)

theorem fault_script (node : Node) :
    (node.script number outer).fault = node.firstFault? :=
  Walk.fault_script number outer Walk.start node.visits

theorem requests_script_within (node : Node) :
    ∀ request ∈ (node.script number outer).requests,
      request.origin.Within number outer :=
  Walk.start.requests_within number outer node.visits fun _ member =>
    (List.not_mem_nil member).elim

theorem length_requests_script {node : Node}
    (faultless : node.firstFault? = none) :
    (node.script number outer).requests.length = node.tagCount :=
  Walk.length_requests number outer Walk.start
    ((fault_script number outer node).trans faultless)

end Node

end WidgetTemplate
