import WidgetTemplate.Files.Access
import WidgetTemplate.PathName
import WidgetTemplate.Settings.Decode
import WidgetTemplate.Toml.Document

/-!
# Layers of settings

Settings start from built-in defaults, which are read from a text as a file is.
Files are laid over them in order, each setting of a file over the one before
it, and single overrides go over all files, whenever they were given.
-/

namespace WidgetTemplate

/-- A layer of settings. -/
inductive SettingsLayer where
  /-- A file; one that is not required may be absent. -/
  | file (path : String) (isRequired : Bool)
  /-- A single setting. -/
  | override (path : SettingPath) (value : Setting)
  deriving Inhabited

namespace SettingsLayer

/-- The layer of a single setting whose path is a text. -/
def ofOverride (key : String) (value : Setting) :
    Except SettingsError SettingsLayer :=
  match SettingPath.ofText key with
  | .ok path => .ok (.override path value.given)
  | .error fault => .error (.path fault)

/-- The files of layers in order, and whether each of them is required. -/
def files : List SettingsLayer → List (String × Bool)
  | [] => []
  | .file path isRequired :: rest => (path, isRequired) :: files rest
  | .override _ _ :: rest => files rest

/--
The overrides of layers.  Of several with one path only the last counts; in
which order those of different paths are laid is left open.
-/
def overrides : List SettingsLayer → List (SettingPath × Setting)
  | [] => []
  | .file _ _ :: rest => overrides rest
  | .override path value :: rest =>
      let later := overrides rest
      if (later.lookup path).isSome then later else (path, value) :: later

end SettingsLayer

namespace Setting

mutual

/-- The setting of a value that was read from a file. -/
def ofToml (origin : Option String) : Toml.Value → Setting
  | .string text => .scalar origin (.string text)
  | .integer value => .scalar origin (.integer (.ofInt64 value))
  | .float value => .scalar origin (.float value)
  | .bool value => .scalar origin (.bool value)
  | .moment text => .scalar origin (.string text)
  | .array items => .list origin (itemsOfToml origin items)
  | .table entries => .table origin (entriesOfToml origin entries)

/-- The settings of values that were read from a file. -/
def itemsOfToml (origin : Option String) : List Toml.Value → List Setting
  | [] => []
  | item :: rest => ofToml origin item :: itemsOfToml origin rest

/-- The settings of entries that were read from a file. -/
def entriesOfToml (origin : Option String) :
    List (String × Toml.Value) → List (String × Setting)
  | [] => []
  | (name, value) :: rest =>
      (name, ofToml origin value) :: entriesOfToml origin rest

end

/--
The path that the name of a setting in a file means; any text is
a name at least.
-/
def pathOfName (name : String) : SettingPath :=
  match SettingPath.ofText name with
  | .ok path => path
  | .error _ => ⟨name, []⟩

/-- Lays the settings of a file over others. -/
def layFile (held : Setting) (entries : List (String × Setting)) : Setting :=
  entries.foldl
    (fun held (name, setting) => held.assign (pathOfName name) setting) held

/-- Lays single settings over others. -/
def layOverrides (held : Setting)
    (overrides : List (SettingPath × Setting)) : Setting :=
  overrides.foldl (fun held (path, value) => held.assign path value) held

end Setting

namespace Settings

/-- The lines of the text that the default settings are read from. -/
def defaultLines : List String :=
  ["# Built-in defaults for slimui. User files and CLI flags are layered on top.",
    "",
    "[input]",
    "# How IR documents are read: \"auto\", \"json\" or \"yaml\".",
    "# \"auto\" picks by file extension, then by the first non-blank character.",
    "format = \"auto\"",
    "# Run the multi flattening pre-pass over the IR before compiling.",
    "flatten = true",
    "",
    "[output]",
    "# Default formatter used by `slimui build` (see `slimui list-formats`).",
    "format = \"treeviz\"",
    "# Treeviz labels longer than this are truncated.",
    "label_width = 30"]

/--
The text that the default settings are read from.  Proofs cite what it says
and do not read it again.
-/
@[irreducible]
def defaultText : String :=
  String.join (defaultLines.map (· ++ "\n"))

/-- The settings that a text holds, which may come from a file. -/
def ofText (origin : Option String) (text : String) :
    Except SettingsError (List (String × Setting)) :=
  match Toml.entriesOf? text with
  | some entries => .ok (Setting.entriesOfToml origin entries)
  | none => .error .malformed

/-- The raw settings of texts in order and of overrides over them. -/
def layered
    (contents : List (List (String × Setting)))
    (overrides : List (SettingPath × Setting)) :
    Setting :=
  (contents.foldl Setting.layFile .emptyTable).layOverrides overrides

/-- The path with the extension of settings files at its end. -/
def withExtension (path : String) : Option String :=
  (PathName.fileName? path).map fun name =>
    let directory := (PathName.segments path).dropLast
    let start := if PathName.isAbsolute path then "/" else ""
    start ++ "/".intercalate (directory ++ [name ++ ".toml"])

/-- The file that a path means: itself, or with the extension of settings files. -/
def locate {m : Type → Type} [Monad m] (files : FileAccess m) (path : String) :
    m (Option String) := do
  if ← files.isFile path then
    return some path
  match withExtension path with
  | none => return none
  | some longer => return if ← files.isFile longer then some longer else none

/-- How reports name a file that settings were read from. -/
def originOf (path : String) : String :=
  (if PathName.isAbsolute path then "/" else "") ++
    "/".intercalate (PathName.segments path)

/-- The report of a file that is not there. -/
def fileNotFound (path : String) : String :=
  "configuration file \"" ++ path ++ "\" not found"

/-- Reads the settings of a file; one that is not required may fail to be read. -/
def readFile
    {m : Type → Type}
    [Monad m]
    (files : FileAccess m)
    (path : String)
    (isRequired : Bool) :
    m (Except SettingsError (List (String × Setting))) := do
  let absent (report : String) : Except SettingsError (List (String × Setting)) :=
    if isRequired then .error (.file report) else .ok []
  match ← locate files path with
  | none => return absent (fileNotFound path)
  | some found =>
      match ← files.read found with
      | .ok text => return ofText (some (originOf found)) text
      | .error error => return absent error.message

/-- Reads the settings of files in order, up to the first error. -/
def readFiles
    {m : Type → Type}
    [Monad m]
    (files : FileAccess m) :
    List (String × Bool) →
      m (Except SettingsError (List (List (String × Setting))))
  | [] => return .ok []
  | (path, isRequired) :: rest => do
      match ← readFile files path isRequired with
      | .error error => return .error error
      | .ok entries =>
          match ← readFiles files rest with
          | .error error => return .error error
          | .ok others => return .ok (entries :: others)

/-- The settings of layers over those that a text holds. -/
def buildOver
    {m : Type → Type}
    [Monad m]
    (text : String)
    (files : FileAccess m)
    (layers : List SettingsLayer) :
    m (Except SettingsError Settings) := do
  match ofText none text with
  | .error error => return .error error
  | .ok first =>
      match ← readFiles files (SettingsLayer.files layers) with
      | .error error => return .error error
      | .ok contents =>
          return decode
            (layered (first :: contents) (SettingsLayer.overrides layers))

/-- The settings of layers over the defaults. -/
def build
    {m : Type → Type}
    [Monad m]
    (files : FileAccess m)
    (layers : List SettingsLayer) :
    m (Except SettingsError Settings) :=
  buildOver defaultText files layers

end Settings

end WidgetTemplate
