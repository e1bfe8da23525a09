import WidgetTemplate.Compile.Basic
import WidgetTemplate.Files.Access
import WidgetTemplate.Pipeline

/-!
# Documents with their settings

A document is a text together with the format it is read in and whether it is
flattened.  The extension of a path may settle the format; asking for a format
settles it again, but asking for no particular one leaves it as it is.
-/

namespace WidgetTemplate

/-- A text and how it is read. -/
structure SourceDocument where
  text : String
  format : SourceFormat
  flattens : Bool
  deriving DecidableEq, Repr, Inhabited

/-- Why a document is not built; the toolkit fails with an `ε`. -/
inductive DocumentError (ε : Type) where
  | pipeline (error : PipelineError)
  | compile (error : CompileError ε)

/-- The report of an error, if it has one. -/
def DocumentError.message? {ε : Type} (factoryMessage : ε → String) :
    DocumentError ε → Option String
  | .pipeline error => error.message?
  | .compile error => some (error.message factoryMessage)

namespace SourceDocument

/-- A text that decides its format itself, to be flattened. -/
def ofText (text : String) : SourceDocument where
  text := text
  format := .auto
  flattens := true

/-- The format that a path settles. -/
def formatOf (path : String) : SourceFormat :=
  (SourceFormat.ofExtension? path).getD .auto

/-- The document read in a format, unless that is left open. -/
def withFormat (document : SourceDocument) (format : SourceFormat) :
    SourceDocument :=
  match format with
  | .auto => document
  | chosen => { document with format := chosen }

/-- The document flattened or not. -/
def withFlatten (document : SourceDocument) (flattens : Bool) : SourceDocument :=
  { document with flattens }

/-- The document of a text that was found under a path. -/
def ofFile (path text : String) : SourceDocument :=
  (ofText text).withFormat (formatOf path)

/-- Loads a document from a path. -/
def load {m : Type → Type} [Monad m] (files : FileAccess m) (path : String) :
    m (Except ReadError SourceDocument) := do
  match ← files.read path with
  | .ok text => return .ok (ofFile path text)
  | .error error => return .error (.file error.message)

/-- The record of loading a document from a path. -/
def loadRecord {η : Type} (path : String) : LogRecord η :=
  .loaded path (formatOf path).label

/-- The template that a document holds. -/
def template (document : SourceDocument) : Except PipelineError Node :=
  Stage.standard document.format document.flattens document.text

/-- The records of reading the template that a document holds. -/
def templateRecords {η : Type} (document : SourceDocument) : List (LogRecord η) :=
  match document.flattens, Stage.read document.format document.text with
  | true, .ok node => List.replicate node.elisions .elided
  | _, _ => []

/-- Reads a document and compiles its template. -/
def build
    {σ η ε : Type}
    (document : SourceDocument)
    (factory : WidgetFactory σ η ε)
    (toolkit : σ) :
    Except (DocumentError ε) η × BuildState σ η :=
  match document.template with
  | .error error =>
      (.error (.pipeline error),
        { toolkit
          context := Context.start none })
  | .ok node =>
      let (result, after) := compileDocument factory node toolkit
      (result.mapError .compile, after)

end SourceDocument

end WidgetTemplate
