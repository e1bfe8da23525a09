import Mathlib
import WidgetTemplate.Proofs.Precedence
import WidgetTemplate.Proofs.Settings.Files

/-!
# Which layer a setting comes from

It makes no difference in which order files and single settings were given.
Files are laid over the defaults first, each over the one before it, and single
settings over all of them.  A setting is then the last single one for its key;
without one, it is what the last file says that says anything; and otherwise it
is the default.

A single setting that is a table is laid over what files and defaults say, as
any table is.  These are scalars, so only a table without entries is no setting
of its own: it leaves them as they are.
-/

namespace WidgetTemplate

/-! ## Calls -/

/-- A call that adds a layer; a single setting is named by one of the four keys. -/
inductive SettingsCall where
  | file (path : String) (isRequired : Bool)
  | override (key : SettingsKey) (value : Setting)

namespace SettingsCall

/-- The layer that a call adds. -/
def layer : SettingsCall → Except SettingsError SettingsLayer
  | .file path isRequired => .ok (.file path isRequired)
  | .override key value => SettingsLayer.ofOverride key.text value

/-- The value that a call sets a key to by itself. -/
def overrideOf (key : SettingsKey) : SettingsCall → Option Setting
  | .file _ _ => none
  | .override other value => if key = other then some value.given else none

/-- The value under a key in the file that a call adds. -/
def fileValueOf (files : FileAccess Id) (key : SettingsKey) :
    SettingsCall → Option Setting
  | .file path _ => (SettingsFile.at? files path).bind (·.value? key)
  | .override _ _ => none

/-- The value under a key in the last file that has one, or else the default. -/
def underlying (files : FileAccess Id) (calls : List SettingsCall)
    (key : SettingsKey) :
    Setting :=
  (calls.filterMap (fileValueOf files key)).getLast?.getD key.default

/--
The value under a key in the end: what files and defaults say, with the last
value in its place that a call sets by itself.
-/
def settled (files : FileAccess Id) (calls : List SettingsCall)
    (key : SettingsKey) :
    Setting :=
  match (calls.filterMap (overrideOf key)).getLast? with
  | none => underlying files calls key
  | some value => (underlying files calls key).inPlaceOf value

variable {files : FileAccess Id} {calls : List SettingsCall}

/--
Every file that is there is TOML with scalars in the two groups
and nothing else.
-/
def FilesSetScalars (files : FileAccess Id) (calls : List SettingsCall) : Prop :=
  ∀ path isRequired, .file path isRequired ∈ calls → ¬ files.Lacks path →
    ∃ file, SettingsFile.at? files path = some file ∧
      Toml.SetsGroupsOnly file.entries

/-- Every file that has to be there is there. -/
def FilesThere (files : FileAccess Id) (calls : List SettingsCall) : Prop :=
  ∀ path, .file path true ∈ calls → ¬ files.Lacks path

theorem FilesSetScalars.of_subset (scalars : FilesSetScalars files calls)
    {fewer : List SettingsCall} (subset : fewer ⊆ calls) :
    FilesSetScalars files fewer :=
  fun path isRequired member => scalars path isRequired (subset member)

theorem FilesThere.of_subset (there : FilesThere files calls)
    {fewer : List SettingsCall} (subset : fewer ⊆ calls) :
    FilesThere files fewer :=
  fun path member => there path (subset member)

/-- The settings that calls make. -/
def build (files : FileAccess Id) (calls : List SettingsCall) :
    Except SettingsError Settings :=
  (calls.mapM layer).bind (Settings.build files)

end SettingsCall

end WidgetTemplate
