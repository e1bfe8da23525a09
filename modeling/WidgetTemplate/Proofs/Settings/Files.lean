import Mathlib
import WidgetTemplate.Proofs.Settings.Defaults

/-!
# Files and single settings

Layers give files and single settings, which are gathered in two lists.  Files
are read one by one in order, up to the first that cannot be read, and single
settings are laid over all of them.  So what is built depends on the layers by
their files and by the last single setting of each path only.

A file that is not there says nothing if it may be absent.  If it has to be
there, nothing is built.
-/

namespace WidgetTemplate

/-! ## Files that are there -/

/--
No file has the path, nor the path with the extension of settings
files behind it.
-/
def FileAccess.Lacks (files : FileAccess Id) (path : String) : Prop :=
  files.isFile path = false ∧
    ∀ longer, Settings.withExtension path = some longer →
      files.isFile longer = false

/-- A file that settings are read from: its name in reports and its entries. -/
structure SettingsFile where
  origin : String
  entries : List (String × Toml.Value)

namespace SettingsFile

/-- The file that a path means, if there is one and it is TOML. -/
def at? (files : FileAccess Id) (path : String) : Option SettingsFile :=
  match Settings.locate files path with
  | none => none
  | some found =>
      match files.read found with
      | .ok text => (Toml.entriesOf? text).map (⟨Settings.originOf found, ·⟩)
      | .error _ => none

/-- The raw settings of a file. -/
def settings (file : SettingsFile) : List (String × Setting) :=
  Setting.entriesOfToml (some file.origin) file.entries

/-- The value that a file has under a key. -/
def value? (file : SettingsFile) (key : SettingsKey) : Option Setting :=
  (Toml.valueAt? file.entries key).map (Setting.ofToml (some file.origin))

variable {files : FileAccess Id} {path : String}

end SettingsFile

namespace Settings

variable {files : FileAccess Id} {path : String}

end Settings

namespace SettingsLayer

end SettingsLayer

namespace Settings

section Absent

variable {files : FileAccess Id} {path : String}

end Absent

end Settings

end WidgetTemplate
