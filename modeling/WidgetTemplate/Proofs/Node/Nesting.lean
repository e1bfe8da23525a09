import WidgetTemplate.Proofs.Node.DocumentOrder

/-!
# How the elements of a template are nested

An outline gives for every element the innermost element around it.  As the
elements are numbered in document order, that one has a smaller number, and
what is numbered between the two stands in it as well.  So no element reaches
out of an element that was opened after the one around it.

Following an outline outwards from an element leads to the toplevel that the
element stands in, if there is one.
-/

namespace WidgetTemplate

namespace Node

/-! ## Numbers of nested elements -/

mutual

/--
An element stands in what the node stands in, or in an earlier
element of the node.
-/
theorem enclosing_cases (enclosing : Option Nat) (first : Nat) :
    (node : Node) → (index : Nat) → (entry : Entry) →
      (outlineFrom enclosing first node)[index]? = some entry →
        entry.enclosing = enclosing ∨
          ∃ above, entry.enclosing = some above ∧
            first ≤ above ∧ above < first + index
  | .text content, index, entry, listed => by
      simp [outlineFrom] at listed
  | .sequence children, index, entry, listed =>
      enclosing_cases_all enclosing first children index entry listed
  | .tag name attributes body, 0, entry, listed => by
      cases listed
      exact Or.inl rfl
  | .tag name attributes body, index + 1, entry, listed => by
      rcases enclosing_cases (some first) (first + 1) body index entry listed with
        around | ⟨above, around, from_, before⟩
      · exact Or.inr ⟨first, around, Nat.le_refl first, by omega⟩
      · exact Or.inr ⟨above, around, by omega, by omega⟩

theorem enclosing_cases_all (enclosing : Option Nat) (first : Nat) :
    (children : List Node) → (index : Nat) → (entry : Entry) →
      (outlineAllFrom enclosing first children)[index]? = some entry →
        entry.enclosing = enclosing ∨
          ∃ above, entry.enclosing = some above ∧
            first ≤ above ∧ above < first + index
  | [], index, entry, listed => by
      simp [outlineAllFrom] at listed
  | child :: rest, index, entry, listed => by
      rw [outlineAllFrom, List.getElem?_append, length_outlineFrom] at listed
      split at listed
      · exact enclosing_cases enclosing first child index entry listed
      · rcases enclosing_cases_all enclosing (first + child.tagCount) rest _ entry
            listed with
          around | ⟨above, around, from_, before⟩
        · exact Or.inl around
        · exact Or.inr ⟨above, around, by omega, by omega⟩

end

/-- In an outline an element comes after every element that it stands in. -/
theorem enclosing_before {document : Node} {index above : Nat} {entry : Entry}
    (listed : document.outline[index]? = some entry)
    (inside : entry.enclosing = some above) :
    above < index := by
  rcases enclosing_cases none 0 document index entry listed with
    free | ⟨other, around, -, before⟩
  · rw [free] at inside
    cases inside
  · rw [around] at inside
    cases inside
    omega

/--
What is numbered between an element and something directly inside it stands
directly in that element as well, or in something opened after it.
-/
def Nested (first : Nat) (entries : List Entry) : Prop :=
  ∀ (earlier later above : Nat) (left right : Entry),
    entries[earlier]? = some left → entries[later]? = some right →
      right.enclosing = some above → above < first + earlier → earlier < later →
        ∃ closer, left.enclosing = some closer ∧ above ≤ closer

mutual

theorem outlineFrom_nested (enclosing : Option Nat) (first : Nat)
    (outside : ∀ above, enclosing = some above → above < first) :
    (node : Node) → Nested first (outlineFrom enclosing first node)
  | .text content => by
      intro earlier later above left right listed
      simp [outlineFrom] at listed
  | .sequence children => outlineAllFrom_nested enclosing first outside children
  | .tag name attributes body => by
      have inner :=
        outlineFrom_nested (some first) (first + 1)
          (fun above same => by cases same; exact Nat.lt_succ_self first) body
      rintro (_ | earlier)
        (_ | later) above left right listed also around before order
      · exact absurd order (Nat.lt_irrefl 0)
      · -- Nothing in the body stands directly in what comes before
        -- the element itself.
        rcases enclosing_cases (some first) (first + 1) body later right also with
          same | ⟨other, same, from_, -⟩
        · rw [same] at around
          cases around
          omega
        · rw [same] at around
          cases around
          omega
      · exact absurd order (Nat.not_lt_zero _)
      · exact inner earlier later above left right listed also around
          (by omega) (by omega)

theorem outlineAllFrom_nested (enclosing : Option Nat) (first : Nat)
    (outside : ∀ above, enclosing = some above → above < first) :
    (children : List Node) → Nested first (outlineAllFrom enclosing first children)
  | [] => by
      intro earlier later above left right listed
      simp [outlineAllFrom] at listed
  | child :: rest => by
      have head := outlineFrom_nested enclosing first outside child
      have tail :=
        outlineAllFrom_nested enclosing (first + child.tagCount)
          (fun above same =>
            Nat.lt_add_right child.tagCount (outside above same)) rest
      intro earlier later above left right listed also around before order
      rw [outlineAllFrom, List.getElem?_append, length_outlineFrom] at listed also
      split at listed
      · split at also
        · exact head earlier later above left right listed also around before order
        · -- What the two have around them directly is then around
          -- all the children.
          have outer : enclosing = some above := by
            rcases enclosing_cases_all enclosing
              (first + child.tagCount) rest _ right
                also with
              same | ⟨other, same, from_, -⟩
            · exact same.symm.trans around
            · rw [same] at around
              cases around
              omega
          rcases enclosing_cases enclosing first child earlier left listed with
            same | ⟨closer, same, from_, -⟩
          · exact ⟨above, same.trans outer, Nat.le_refl above⟩
          · exact ⟨closer, same, by have := outside above outer; omega⟩
      · split at also
        · omega
        · exact tail _ _ above left right listed also around (by omega) (by omega)

end

theorem outline_nested (document : Node) : Nested 0 document.outline :=
  outlineFrom_nested none 0 (fun above same => by cases same) document

end Node

/-! ## Toplevels around elements -/

def Entry.IsToplevel (entry : Entry) : Prop :=
  ∃ kind, Element.named? entry.name = some (.toplevel kind)

namespace Node

/--
The innermost toplevel around an element, which is the element itself if it is a
toplevel.
-/
inductive ToplevelAround (document : Node) : Nat → Nat → Prop where
  | itself {index : Nat} {entry : Entry}
      (listed : document.outline[index]? = some entry)
      (toplevel : entry.IsToplevel) :
      ToplevelAround document index index
  | enclosing {index above owner : Nat} {entry : Entry}
      (listed : document.outline[index]? = some entry)
      (inner : ¬ entry.IsToplevel)
      (inside : entry.enclosing = some above)
      (around : ToplevelAround document above owner) :
      ToplevelAround document index owner

/-- The elements of the template that no other element encloses are toplevels. -/
def StartsToplevel (document : Node) : Prop :=
  ∀ name attributes body, .tag name attributes body ∈ document.items →
    ∃ kind, Element.named? name = some (.toplevel kind)

mutual

/-- What stands in nothing is an outermost element. -/
theorem mem_items_of_outermost (first : Nat) (entry : Entry)
    (outermost : entry.enclosing = none) :
    (node : Node) → entry ∈ outlineFrom none first node →
      ∃ attributes body, .tag entry.name attributes body ∈ node.items
  | .text content, listed => by
      cases listed
  | .sequence children, listed =>
      mem_itemsAll_of_outermost first entry outermost children listed
  | .tag name attributes body, listed => by
      rw [outlineFrom] at listed
      rcases List.mem_cons.mp listed with rfl | inside
      · exact ⟨attributes, body, List.mem_singleton_self _⟩
      · have enclosed := enclosing_isSome first (first + 1) body entry inside
        rw [outermost] at enclosed
        cases enclosed

theorem mem_itemsAll_of_outermost (first : Nat) (entry : Entry)
    (outermost : entry.enclosing = none) :
    (children : List Node) → entry ∈ outlineAllFrom none first children →
      ∃ attributes body, .tag entry.name attributes body ∈ itemsAll children
  | [], listed => by
      cases listed
  | child :: rest, listed => by
      rw [outlineAllFrom] at listed
      rw [itemsAll]
      rcases List.mem_append.mp listed with head | tail
      · rcases mem_items_of_outermost first entry outermost child head with
          ⟨attributes, body, member⟩
        exact ⟨attributes, body, List.mem_append_left _ member⟩
      · rcases mem_itemsAll_of_outermost _ entry outermost rest tail with
          ⟨attributes, body, member⟩
        exact ⟨attributes, body, List.mem_append_right _ member⟩

end

theorem StartsToplevel.isToplevel {document : Node}
    (starts : document.StartsToplevel) {entry : Entry}
    (listed : entry ∈ document.outline) (outermost : entry.enclosing = none) :
    entry.IsToplevel := by
  rcases mem_items_of_outermost 0 entry outermost document listed with
    ⟨attributes, body, member⟩
  exact starts entry.name attributes body member

/-- If only toplevels stand in nothing, a toplevel is around every element. -/
theorem StartsToplevel.exists_toplevelAround {document : Node}
    (starts : document.StartsToplevel) {index : Nat} {entry : Entry}
    (listed : document.outline[index]? = some entry) :
    ∃ owner, document.ToplevelAround index owner := by
  induction index using Nat.strongRecOn generalizing entry with
  | ind index induction =>
      by_cases toplevel : entry.IsToplevel
      · exact ⟨index, .itself listed toplevel⟩
      · cases inside : entry.enclosing with
        | some above =>
            have before := enclosing_before listed inside
            have there : above < document.outline.length :=
              Nat.lt_trans before (List.getElem?_eq_some_iff.mp listed).1
            rcases induction above before (List.getElem?_eq_getElem there) with
              ⟨owner, around⟩
            exact ⟨owner, .enclosing listed toplevel inside around⟩
        | none =>
            have member := List.mem_of_getElem? listed
            exact absurd (starts.isToplevel member inside) toplevel

end Node

end WidgetTemplate
