import WidgetTemplate.Proofs.Toml.Distinct
import WidgetTemplate.Settings.Layers
import WidgetTemplate.SortedMap

/-!
# Raw settings under a key

There are four settings, each with a name in one of two groups.  What is laid
over raw settings changes the value under a key only by a value of its own for
that key: a single setting under its path, and a file under the keys it has.
Under every other key the value stays, so tables are merged and not replaced.
A single setting that is a table is merged as well, into the value of its key.

Nothing is asked of the raw settings that something is laid over.  A group that
is missing, or that is no table, has no values and gives way to a table.

Raw settings with a value under every key convert by these values alone.
-/

namespace WidgetTemplate

/-! ## Keys -/

/-- The settings that are read. -/
inductive SettingsKey where
  | inputFormat
  | flatten
  | outputFormat
  | labelWidth
  deriving DecidableEq

namespace SettingsKey

/-- The group that a setting belongs to. -/
def group : SettingsKey → SettingsGroup
  | .inputFormat => .input
  | .flatten => .input
  | .outputFormat => .output
  | .labelWidth => .output

/-- The name of a setting in its group. -/
def name : SettingsKey → String
  | .inputFormat => "format"
  | .flatten => "flatten"
  | .outputFormat => "format"
  | .labelWidth => "label_width"

/-- The key that overrides name a setting by. -/
def text (key : SettingsKey) : String :=
  key.group.name ++ "." ++ key.name

/-- The path to a setting. -/
def path (key : SettingsKey) : SettingPath where
  first := key.group.name
  steps := [.entry key.name]

/-- The group and the name tell keys apart. -/
theorem eq_iff {key other : SettingsKey} :
    key = other ↔ key.group = other.group ∧ key.name = other.name := by
  cases key <;> cases other <;> decide

end SettingsKey

namespace SettingsGroup

end SettingsGroup

/-! ## Values under keys -/

namespace Setting

/-- The value under a key. -/
def at? (held : Setting) (key : SettingsKey) : Option Setting :=
  held.find? [key.group.name, key.name]

end Setting

/-! ## Conversion -/

namespace Settings

end Settings

/-! ## Single settings -/

namespace Setting

section Overrides

variable {order : List (SettingPath × Setting)} {key : SettingsKey}

end Overrides

/-- Whether a setting has no parts. -/
def IsScalar : Setting → Prop
  | .scalar _ _ => True
  | .list _ _ => False
  | .table _ _ => False

/--
What a single setting makes of a value without parts: an empty table adds
nothing to it, and any other setting takes its place.
-/
def inPlaceOf (below : Setting) : Setting → Setting
  | .table _ [] => below
  | .table _ entries => emptyTable.layEntries entries
  | value => value

end Setting

/-! ## Files -/

/-- Whether a value of a file has no parts. -/
def Toml.Value.IsScalar : Toml.Value → Prop
  | .array _ => False
  | .table _ => False
  | _ => True

/-- Entries of a group: scalars under names in lower case. -/
def Toml.SetsScalarsOnly (entries : List (String × Toml.Value)) : Prop :=
  ∀ entry ∈ entries, Text.lowercase entry.1 = entry.1 ∧ entry.2.IsScalar

/--
Entries of a file: no others than the two groups, which are tables
of such scalars.
-/
def Toml.SetsGroupsOnly (entries : List (String × Toml.Value)) : Prop :=
  ∀ entry ∈ entries,
    ∃ (group : SettingsGroup) (inner : List (String × Toml.Value)),
    entry = (group.name, .table inner) ∧ Toml.SetsScalarsOnly inner

/-- The value that the entries of a file have under a key. -/
def Toml.valueAt? (entries : List (String × Toml.Value)) (key : SettingsKey) :
    Option Toml.Value :=
  match entries.lookup key.group.name with
  | some (.table inner) => inner.lookup key.name
  | _ => none

namespace Setting

variable {origin : Option String}

end Setting

end WidgetTemplate
