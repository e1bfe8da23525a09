import Mathlib
import WidgetTemplate.Proofs.Settings.Raw

/-!
# Default settings

The text of the defaults is read as a file is and laid over no settings at all,
so what holds of files holds of it.  It has a scalar under each of the four keys
and nothing else.
-/

namespace WidgetTemplate

namespace Settings

/-- The entries of the default settings. -/
def defaultEntries : List (String × Toml.Value) :=
  [("input", .table [("format", .string "auto"), ("flatten", .bool true)]),
    ("output",
      .table [("format", .string "treeviz"), ("label_width", .integer 30)])]

end Settings

/-- The default of a setting. -/
def SettingsKey.default (key : SettingsKey) : Setting :=
  (Toml.valueAt? Settings.defaultEntries key).elim .unset (Setting.ofToml none)

end WidgetTemplate
