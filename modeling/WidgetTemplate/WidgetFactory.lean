import WidgetTemplate.Element

/-!
# What the compiler asks of a toolkit

A toolkit builds one widget per request, through one capability per category.
A request may fail, and even then it may have changed the toolkit's state.
When a parent is given, the new widget is attached to it after the children it
already has.
-/

namespace WidgetTemplate

/--
The three capabilities of a toolkit with state `σ`, handles `η` and failures
`ε`.
-/
structure WidgetFactory (σ η ε : Type) where
  createToplevel : ToplevelKind → σ → Except ε η × σ
  createContainer : ContainerKind → Option η → σ → Except ε η × σ
  createLeaf : LeafKind → Option η → String → σ → Except ε η × σ

end WidgetTemplate
