import WidgetTemplate.Source.Format

/-!
# Arguments of the command line

The first argument is a subcommand.  A subcommand on documents takes one path
and options in any order; an option with a value takes it from the same
argument or from the next one, which must not look like an option.  Behind a
double dash there are only paths.
-/

namespace WidgetTemplate.CommandLine

/-- Why arguments are not understood. -/
inductive UsageError where
  | noSubcommand
  | unknownSubcommand (name : String)
  | unknownOption (argument : String)
  | missingValue (option : String)
  | unexpectedValue (option : String)
  | repeatedOption (option : String)
  | invalidFormat (name : String)
  | missingPath
  | extraArgument (argument : String)
  deriving DecidableEq, Repr, Inhabited

/-- The report of an error. -/
def UsageError.message : UsageError → String
  | .noSubcommand => "a subcommand is required"
  | .unknownSubcommand name => "unrecognized subcommand '" ++ name ++ "'"
  | .unknownOption argument => "unexpected argument '" ++ argument ++ "'"
  | .missingValue option => "a value is required for '" ++ option ++ "'"
  | .unexpectedValue option => "'" ++ option ++ "' takes no value"
  | .repeatedOption option => "'" ++ option ++ "' is given more than once"
  | .invalidFormat name => "invalid input format '" ++ name ++ "'"
  | .missingPath => "a path is required"
  | .extraArgument argument => "unexpected argument '" ++ argument ++ "'"

/-- The options of subcommands on documents. -/
inductive DocumentOption where
  | inputFormat
  | noFlatten
  | config
  | format
  | help
  deriving DecidableEq, Repr, Inhabited

namespace DocumentOption

/-- The option of a long name. -/
def ofLong? : String → Option DocumentOption
  | "input-format" => some .inputFormat
  | "no-flatten" => some .noFlatten
  | "config" => some .config
  | "format" => some .format
  | "help" => some .help
  | _ => none

/-- The option of a letter. -/
def ofShort? : Char → Option DocumentOption
  | 'i' => some .inputFormat
  | 'c' => some .config
  | 'f' => some .format
  | 'h' => some .help
  | _ => none

/-- The long name of an option behind its dashes. -/
def name : DocumentOption → String
  | .inputFormat => "--input-format"
  | .noFlatten => "--no-flatten"
  | .config => "--config"
  | .format => "--format"
  | .help => "--help"

/-- Whether an option takes a value. -/
def takesValue : DocumentOption → Bool
  | .inputFormat => true
  | .noFlatten => false
  | .config => true
  | .format => true
  | .help => false

end DocumentOption

/-- What a subcommand on documents is asked for. -/
structure DocumentRequest where
  path : Option String
  inputFormat : Option SourceFormat
  noFlatten : Bool
  config : Option String
  format : Option String
  deriving DecidableEq, Repr, Inhabited

/-- A request without arguments. -/
def DocumentRequest.none : DocumentRequest where
  path := .none
  inputFormat := .none
  noFlatten := false
  config := .none
  format := .none

/-- What the command line asks for. -/
inductive Command where
  | version
  | help
  | listFormats
  /-- Compile a document and print the widget tree. -/
  | build (path : String) (request : DocumentRequest)
  /-- Print the template of a document. -/
  | ir (path : String) (request : DocumentRequest)
  deriving DecidableEq, Repr, Inhabited

/-- The input format of a name; here each format has one name. -/
def inputFormatNamed (name : String) : Except UsageError SourceFormat :=
  match [SourceFormat.auto, .json, .yaml].find? (·.name = name) with
  | some format => .ok format
  | none => .error (.invalidFormat name)

/-- Fills a place of a request that must be empty. -/
def fill {α : Type} (option : DocumentOption) (held : Option α) (value : α) :
    Except UsageError (Option α) :=
  match held with
  | some _ => .error (.repeatedOption option.name)
  | none => .ok (some value)

/-- The request with the value of an option. -/
def withValue (request : DocumentRequest) (option : DocumentOption)
    (value : String) :
    Except UsageError DocumentRequest :=
  match option with
  | .inputFormat => do
      let format ← inputFormatNamed value
      let filled ← fill option request.inputFormat format
      return { request with inputFormat := filled }
  | .config => return { request with config := ← fill option request.config value }
  | .format => return { request with format := ← fill option request.format value }
  | .noFlatten => .error (.unexpectedValue option.name)
  | .help => .error (.unexpectedValue option.name)

/-- The request with an option that takes no value. -/
def withFlag (request : DocumentRequest) (option : DocumentOption) :
    Except UsageError DocumentRequest :=
  if request.noFlatten then
    .error (.repeatedOption option.name)
  else
    .ok { request with noFlatten := true }

/-- The request with a path. -/
def withPath (request : DocumentRequest) (path : String) :
    Except UsageError DocumentRequest :=
  match request.path with
  | some _ => .error (.extraArgument path)
  | none => .ok { request with path := some path }

/-- What an argument is. -/
inductive Argument where
  | path (path : String)
  /-- The double dash. -/
  | divider
  /-- An option and the value in the same argument. -/
  | given (option : DocumentOption) (value : Option String)
  | unknown (argument : String)
  deriving DecidableEq, Repr, Inhabited

/-- The value behind an equals sign. -/
def attached (text : List Char) : Option String :=
  match text with
  | '=' :: value => some (String.ofList value)
  | _ => none

/-- What an argument of a subcommand is that takes some options. -/
def Argument.ofText (accepts : DocumentOption → Bool)
    (argument : String) : Argument :=
  match argument.toList with
  | ['-', '-'] => .divider
  | '-' :: '-' :: text =>
      let name := String.ofList (text.takeWhile (· != '='))
      match (DocumentOption.ofLong? name).filter accepts with
      | some option => .given option (attached (text.dropWhile (· != '=')))
      | none => .unknown argument
  | '-' :: letter :: text =>
      match (DocumentOption.ofShort? letter).filter accepts with
      | none => .unknown argument
      | some option =>
          if option.takesValue then
            let value := (attached text).getD (String.ofList text)
            .given option (if text.isEmpty then none else some value)
          else
            .given option none
  | _ => .path argument

/-- What has been understood of the arguments of a subcommand. -/
inductive Understood where
  | help
  | request (request : DocumentRequest)

/-- Reads arguments that are all paths. -/
def readPaths (request : DocumentRequest) :
    List String → Except UsageError DocumentRequest
  | [] => .ok request
  | path :: rest => do readPaths (← withPath request path) rest

/-- Reads the arguments of a subcommand that takes some options. -/
def readArguments (accepts : DocumentOption → Bool) (request : DocumentRequest) :
    List String → Except UsageError Understood
  | [] => .ok (.request request)
  | argument :: rest =>
      match Argument.ofText accepts argument with
      | .path path => do readArguments accepts (← withPath request path) rest
      | .divider => do return .request (← readPaths request rest)
      | .unknown argument => .error (.unknownOption argument)
      | .given .help none => .ok .help
      | .given option (some value) => do
          readArguments accepts (← withValue request option value) rest
      | .given option none =>
          if option.takesValue then
            match rest with
            | value :: rest =>
                match Argument.ofText accepts value with
                | .path value => do
                    readArguments accepts (← withValue request option value) rest
                | _ => .error (.missingValue option.name)
            | [] => .error (.missingValue option.name)
          else do
            readArguments accepts (← withFlag request option) rest

/-- The command of a subcommand on documents. -/
def documentCommand
    (accepts : DocumentOption → Bool)
    (command : String → DocumentRequest → Command)
    (arguments : List String) :
    Except UsageError Command := do
  match ← readArguments accepts .none arguments with
  | .help => return .help
  | .request request =>
      match request.path with
      | some path => return command path request
      | none => throw .missingPath

/-- The command that lists formats, which takes no arguments. -/
def listCommand (arguments : List String) : Except UsageError Command := do
  match ← readArguments (· = .help) .none arguments with
  | .help => return .help
  | .request request =>
      match request.path with
      | some path => throw (.extraArgument path)
      | none => return .listFormats

/-- Whether an argument asks for the version. -/
def asksVersion (argument : String) : Bool :=
  argument = "--version" || "-V".isPrefixOf argument

/-- Whether an argument asks for help. -/
def asksHelp (argument : String) : Bool :=
  argument = "--help" || argument = "help" || "-h".isPrefixOf argument

/-- The command that arguments ask for. -/
def Command.ofArguments : List String → Except UsageError Command
  | [] => .error .noSubcommand
  | "build" :: rest => documentCommand (fun _ => true) .build rest
  | "ir" :: rest => documentCommand (· ≠ .format) .ir rest
  | "list-formats" :: rest => listCommand rest
  | argument :: _ =>
      if asksVersion argument then
        .ok .version
      else if asksHelp argument then
        .ok .help
      else
        .error (.unknownSubcommand argument)

end WidgetTemplate.CommandLine
