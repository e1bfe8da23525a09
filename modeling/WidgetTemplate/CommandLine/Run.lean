import WidgetTemplate.CommandLine.Arguments
import WidgetTemplate.Format.Registry
import WidgetTemplate.Json.Printer
import WidgetTemplate.Settings.Layers
import WidgetTemplate.Source.Document

/-!
# Runs of the command line

Settings come from the defaults, then from a file in the working directory if
there is one, then from a file that is named, then from the options.  A run
prints its result, or a report and nothing else.
-/

namespace WidgetTemplate.CommandLine

/-- What a run leaves behind. -/
structure Outcome where
  code : Nat
  output : String
  errors : String
  deriving DecidableEq, Repr, Inhabited

/-- A run that prints a result. -/
def Outcome.success (output : String) : Outcome where
  code := 0
  output := output
  errors := ""

/-- A run that fails with a report. -/
def Outcome.failure (report : String) : Outcome where
  code := 1
  output := ""
  errors := "Error: " ++ report ++ "\n"

/-- A run whose arguments are not understood. -/
def Outcome.usage (error : UsageError) : Outcome where
  code := 2
  output := ""
  errors := "error: " ++ error.message ++ "\n"

/-- The name of the program. -/
def programName : String := "slimui"

/-- What the program calls itself. -/
def version : String := programName ++ " 0.1.0"

/-- How the program is used. -/
def usage : String :=
  String.intercalate "\n"
    ["Compile templates into widget trees",
      "",
      "Usage: " ++ programName ++ " build <path> [options]",
      "       " ++ programName ++ " ir <path> [options]",
      "       " ++ programName ++ " list-formats",
      "",
      "Options:",
      "  -i, --input-format <auto|json|yaml>  how to read the document",
      "  -f, --format <name>                  output format, for build only",
      "  -c, --config <file>                  settings over the defaults",
      "      --no-flatten                     keep nested sequences",
      "  -h, --help                           print help",
      "  -V, --version                        print the version",
      ""]

/-- The settings file of the working directory. -/
def localSettings : String := "slimui.toml"

/-- The layer of an option that sets one setting of a group. -/
def optionLayer (group : SettingsGroup) (name : String) (value : SettingValue) :
    SettingsLayer :=
  .override ⟨group.name, [.entry name]⟩ (.scalar none value)

/-- The layers of settings that a request asks for. -/
def layersOf (request : DocumentRequest) : List SettingsLayer :=
  let named := request.config.map fun path => SettingsLayer.file path true
  let input := request.inputFormat.map fun format =>
    optionLayer .input "format" (.string format.name)
  let output := request.format.map fun format =>
    optionLayer .output "format" (.string format)
  let flatten :=
    if request.noFlatten then
      some (optionLayer .input "flatten" (.bool false))
    else
      none
  [some (.file localSettings false), named, input, output, flatten].filterMap id

/-- A report, or what is said of a file that is not in its format. -/
def reportOr (format : String) (report : Option String) : String :=
  report.getD ("malformed " ++ format)

/-- The document of a request with its settings, or the report of an error. -/
def openDocument
    {m : Type → Type}
    [Monad m]
    (files : FileAccess m)
    (path : String)
    (request : DocumentRequest) :
    m (Except String (Settings × SourceDocument)) := do
  match ← Settings.build files (layersOf request) with
  | .error error =>
      return .error
        ("could not load configuration: " ++ reportOr "TOML" error.message?)
  | .ok settings =>
      match ← SourceDocument.load files path with
      | .error error =>
          return .error (path ++ ": " ++ reportOr "YAML" error.message?)
      | .ok document =>
          let document :=
            (document.withFormat settings.input.format).withFlatten
              settings.input.flattens
          return .ok (settings, document)

/-- The text with a line feed at its end. -/
def withLineEnd (text : String) : String :=
  if text.endsWith "\n" then text else text ++ "\n"

/-- The formats to print widget trees in. -/
def registryFor (settings : Settings) : FormatRegistry :=
  FormatRegistry.withDefaults.register (.treeviz settings.output.labelWidth)

/-- Compiles a document and prints the widget tree. -/
def build (settings : Settings) (document : SourceDocument) : Outcome :=
  match document.build WidgetTree.factory .empty with
  | (.error error, _) =>
      .failure (reportOr "YAML" (error.message? ToolkitError.message))
  | (.ok _, after) =>
      let registry := registryFor settings
      match registry.serialize after.toolkit settings.output.format with
      | .ok output => .success (withLineEnd output)
      | .error error =>
          .failure (error.message ++ "\nAvailable formats: " ++
            ", ".intercalate registry.names)

/-- Prints the template of a document. -/
def printTemplate (document : SourceDocument) : Outcome :=
  match document.template with
  | .ok node => .success (node.toJson.indented ++ "\n")
  | .error error => .failure (reportOr "YAML" error.message?)

/-- The lines that a format is listed with. -/
def formatEntry (formatter : Formatter) : String :=
  "  " ++ formatter.name ++ "\n    " ++ formatter.description ++ "\n\n"

/-- The list of formats. -/
def formatList : String :=
  let registry := FormatRegistry.withDefaults
  "Available output formats:\n\n" ++
    String.join ((registry.names.filterMap registry.get?).map formatEntry)

/-- Runs a command. -/
def runCommand {m : Type → Type} [Monad m] (files : FileAccess m) :
    Command → m Outcome
  | .version => return .success (version ++ "\n")
  | .help => return .success usage
  | .listFormats => return .success formatList
  | .build path request => do
      match ← openDocument files path request with
      | .error report => return .failure report
      | .ok (settings, document) => return build settings document
  | .ir path request => do
      match ← openDocument files path request with
      | .error report => return .failure report
      | .ok (_, document) => return printTemplate document

/-- Runs the command that arguments ask for. -/
def run {m : Type → Type} [Monad m] (files : FileAccess m)
    (arguments : List String) :
    m Outcome :=
  match Command.ofArguments arguments with
  | .ok command => runCommand files command
  | .error error => return .usage error

end WidgetTemplate.CommandLine
