import Mathlib.Data.List.Sort
import WidgetTemplate.Format.Registry
import WidgetTemplate.Proofs.Precedence
import WidgetTemplate.Proofs.Text.Bytes

/-!
# Registries after any registrations

What a registry answers about a name depends on the formatter that was
registered last under it, and on nothing else: not on the formatters it
replaced, and not on the order in which different names were registered.  As
the names are kept in ascending order, they are listed without regard to that
order, too.
-/

namespace WidgetTemplate

/-! ## Keys of maps -/

namespace SortedMap

universe u

variable {α : Type u}

theorem mem_keys_iff (map : SortedMap α) (key : String) :
    key ∈ map.keys ↔ (map.find? key).isSome := by
  simp only [find?, List.lookup_isSome_iff, keys, List.mem_map,
    beq_iff_eq, @eq_comm _ key]

theorem ascending_keys (map : SortedMap α) :
    map.keys.Pairwise fun left right => left < right :=
  map.ascending.map _ fun _ _ smaller => smaller

/-- Maps that have values for the same keys list them alike. -/
theorem keys_eq_of_isSome_eq {β : Type u} {map : SortedMap α} {other : SortedMap β}
    (same : ∀ key, (map.find? key).isSome = (other.find? key).isSome) :
    map.keys = other.keys := by
  refine map.ascending_keys.eq_of_mem_iff other.ascending_keys fun key => ?_
  rw [mem_keys_iff, mem_keys_iff, same]

end SortedMap

/-! ## Registering one formatter after another -/

/-- The formatter of a name that comes last. -/
def Formatter.latest? (formatters : List Formatter) (name : String) :
    Option Formatter :=
  (formatters.filter (·.name = name)).getLast?

namespace Formatter

theorem latest?_eq_none_iff (formatters : List Formatter) (name : String) :
    latest? formatters name = none ↔ ∀ formatter ∈ formatters,
      formatter.name ≠ name := by
  simp [latest?]

theorem isSome_latest?_iff (formatters : List Formatter) (name : String) :
    (latest? formatters name).isSome ↔ ∃ formatter ∈ formatters,
      formatter.name = name := by
  rw [Option.isSome_iff_ne_none, Ne, latest?_eq_none_iff]
  simp only [not_forall, not_not, exists_prop]

theorem mem_of_latest? {formatters : List Formatter} {name : String}
    {formatter : Formatter} (last : latest? formatters name = some formatter) :
    formatter ∈ formatters :=
  List.mem_of_mem_filter (List.mem_of_getLast? last)

end Formatter

namespace FormatRegistry

/-- What a registry starts with. -/
inductive Start where
  | nothing
  | defaults
  deriving DecidableEq

/-- The registry at the start. -/
def Start.registry : Start → FormatRegistry
  | .nothing => .empty
  | .defaults => .withDefaults

/-- The formatters that are registered at the start, in order. -/
def Start.formatters : Start → List Formatter
  | .nothing => []
  | .defaults => [.treeviz Treeviz.defaultLabelWidth, .tag, .json]

theorem Start.mem_names_formatters (start : Start) (name : String) :
    (∃ formatter ∈ start.formatters, formatter.name = name) ↔
      start = .defaults ∧ name ∈ ["treeviz", "tag", "json"] := by
  cases start <;>
    simp [formatters, Formatter.treeviz, Formatter.tag, Formatter.json, eq_comm]

/-- The registry with formatters registered one after another. -/
def registerAll (registry : FormatRegistry) (formatters : List Formatter) :
    FormatRegistry :=
  formatters.foldl register registry

@[simp]
theorem get?_register (registry : FormatRegistry) (formatter : Formatter)
    (name : String) :
    (registry.register formatter).get? name =
      if name = formatter.name then some formatter else registry.get? name :=
  SortedMap.find?_insert _ _ _ _

/-- A name stands for the formatter registered last, or for what it stood for. -/
theorem get?_registerAll (registry : FormatRegistry) (formatters : List Formatter)
    (name : String) :
    (registry.registerAll formatters).get? name =
      (Formatter.latest? formatters name).or (registry.get? name) := by
  rw [Formatter.latest?, ← List.filterMap_eq_filter]
  refine foldl_last_set (·.get? name) (Option.guard (·.name = name))
    (fun formatter _ registry => ?_) registry
  rw [get?_register]
  by_cases named : formatter.name = name
  · simp [Option.guard, named]
  · simp [Option.guard, named, Ne.symm named]

theorem registry_start (start : Start) :
    start.registry = empty.registerAll start.formatters := by
  cases start <;> rfl

/-- A registry stands for the formatters that were ever registered in it. -/
theorem get?_started (start : Start) (formatters : List Formatter)
    (name : String) :
    (start.registry.registerAll formatters).get? name =
      Formatter.latest? (start.formatters ++ formatters) name := by
  rw [registry_start, registerAll, registerAll, ← List.foldl_append, ← registerAll,
    get?_registerAll]
  exact Option.or_none

theorem mem_names_iff (registry : FormatRegistry) (name : String) :
    name ∈ registry.names ↔ (registry.get? name).isSome :=
  registry.formatters.mem_keys_iff name

theorem has_eq (registry : FormatRegistry) (name : String) :
    registry.has name = (registry.get? name).isSome :=
  rfl

theorem serialize_eq (registry : FormatRegistry) (tree : WidgetTree)
    (name : String) :
    registry.serialize tree name =
      ((registry.get? name).map Formatter.serialize).elim
        (.error (.notFound name)) (· tree) := by
  rw [serialize]
  cases registry.get? name <;> rfl

/-! ## The last registration of each name -/

/--
The last registration under a name is the one that counts.  Whatever formatters
are registered, one after another, in an empty registry or in one that has the
default formatters:

- The names are listed in strictly ascending order of their bytes, and they are
  exactly those that were registered, the default ones included.
- There is a formatter of a name exactly if the name is listed.
- An arena is written by the formatter of a name that was registered last.  The
  name is reported as not found exactly if no formatter was ever registered
  under it, unless a formatter itself makes that report.
- Two runs of registrations whose last formatters write alike, name by name,
  lead to the same answers.
-/
theorem registerAll_last_wins (start : Start) (formatters : List Formatter) :
    let registry := start.registry.registerAll formatters
    let registered := start.formatters ++ formatters
    (registry.names.Pairwise fun left right =>
        Text.bytes left < Text.bytes right) ∧
      (∀ name, name ∈ registry.names ↔
        (∃ formatter ∈ formatters, formatter.name = name) ∨
          start = .defaults ∧ name ∈ ["treeviz", "tag", "json"]) ∧
      (∀ name,
        (registry.has name = true ↔ (registry.get? name).isSome) ∧
          (registry.has name = true ↔ name ∈ registry.names)) ∧
      (∀ tree name,
        (∀ formatter, Formatter.latest? registered name = some formatter →
          registry.serialize tree name = formatter.serialize tree) ∧
        (registry.serialize tree name = .error (.notFound name) ↔
          (∀ formatter ∈ registered, formatter.name ≠ name) ∨
            ∃ formatter, Formatter.latest? registered name = some formatter ∧
              formatter.serialize tree = .error (.notFound name)) ∧
        ((∀ formatter ∈ registered,
            formatter.serialize tree ≠ .error (.notFound name)) →
          (registry.serialize tree name = .error (.notFound name) ↔
            ∀ formatter ∈ registered, formatter.name ≠ name))) ∧
      ∀ (otherStart : Start) (others : List Formatter),
        (∀ name,
          (Formatter.latest? registered name).map Formatter.serialize =
            (Formatter.latest? (otherStart.formatters ++ others) name).map
              Formatter.serialize) →
        let other := otherStart.registry.registerAll others
        registry.names = other.names ∧
          (∀ name, registry.has name = other.has name) ∧
          ∀ tree name, registry.serialize tree name =
            other.serialize tree name := by
  intro registry registered
  have held (name : String) :
      registry.get? name = Formatter.latest? registered name :=
    get?_started start formatters name
  have reported (tree : WidgetTree) (name : String) :
      registry.serialize tree name = .error (.notFound name) ↔
        (∀ formatter ∈ registered, formatter.name ≠ name) ∨
          ∃ formatter, Formatter.latest? registered name = some formatter ∧
            formatter.serialize tree = .error (.notFound name) := by
    rw [serialize_eq, held, ← Formatter.latest?_eq_none_iff]
    cases Formatter.latest? registered name <;> simp
  refine ⟨?_, fun name => ?_, fun name => ?_, fun tree name =>
    ⟨?_, reported tree name, ?_⟩, ?_⟩
  · exact registry.formatters.ascending_keys.imp Text.bytes_lt_bytes
  · rw [mem_names_iff, held, Formatter.isSome_latest?_iff, or_comm,
      ← start.mem_names_formatters]
    simp only [registered, List.mem_append, or_and_right, exists_or]
  · exact ⟨by rw [has_eq], by rw [has_eq, mem_names_iff]⟩
  · intro formatter last
    rw [serialize_eq, held, last]
    rfl
  · intro other
    rw [reported]
    refine or_iff_left fun ⟨formatter, last, own⟩ => ?_
    exact other formatter (Formatter.mem_of_latest? last) own
  · intro otherStart others same other
    have alike (name : String) :
        (registry.get? name).map Formatter.serialize =
          (other.get? name).map Formatter.serialize := by
      rw [held, same, ← get?_started]
    have both (name : String) :
        (registry.get? name).isSome = (other.get? name).isSome := by
      simpa using congrArg Option.isSome (alike name)
    refine ⟨SortedMap.keys_eq_of_isSome_eq both, fun name => ?_,
      fun tree name => ?_⟩
    · rw [has_eq, has_eq, both]
    · rw [serialize_eq, serialize_eq, alike]

/--
A drawing with another width takes the place of the default one, wherever it
is registered, and the one registered after it takes its place in turn.
-/
theorem registerAll_last_wins_over_default :
    let broken : Formatter :=
      { name := "é"
        description := ""
        serialize := fun _ => .error (.serialization "no accents") }
    let registry :=
      Start.defaults.registry.registerAll [.treeviz 5, broken, .treeviz 9]
    let other :=
      Start.nothing.registry.registerAll [broken, .json, .tag, .treeviz 9]
    registry.names = ["json", "tag", "treeviz", "é"] ∧
      (∀ tree, registry.serialize tree "treeviz" = .ok (Treeviz.draw 9 tree)) ∧
      ∀ tree name, registry.serialize tree name = other.serialize tree name := by
  intro broken registry other
  rcases registerAll_last_wins .defaults [.treeviz 5, broken, .treeviz 9] with
    ⟨-, -, -, answers, alike⟩
  refine ⟨by decide, fun tree => (answers tree "treeviz").1 (.treeviz 9) rfl, ?_⟩
  refine (alike .nothing [broken, .json, .tag, .treeviz 9] fun name => ?_).2.2
  by_cases listed : name ∈ ["é", "json", "tag", "treeviz"]
  · simp only [List.mem_cons, List.not_mem_nil, or_false] at listed
    rcases listed with rfl | rfl | rfl | rfl <;> rfl
  · have none (formatters : List Formatter)
        (known : ∀ formatter ∈ formatters,
          formatter.name ∈ ["é", "json", "tag", "treeviz"]) :
        Formatter.latest? formatters name = none :=
      (Formatter.latest?_eq_none_iff formatters name).mpr
        fun formatter member same =>
        listed (same ▸ known formatter member)
    rw [none _ (by decide), none _ (by decide)]

end FormatRegistry

end WidgetTemplate
