import WidgetTemplate.Compiled

/-!
# Why a compile fails

A compile stops at its first error.
-/

namespace WidgetTemplate

/-- The error that ended a compile; a toolkit fails with an `ε`. -/
inductive CompileError (ε : Type) where
  /-- A tag has a name that stands for no element. -/
  | classification (name : String)
  /-- The body of a leaf did not come down to one text. -/
  | shape (element : String) (found : ResultShape)
  /-- A document did not come down to one widget. -/
  | structural (found : ResultShape)
  /-- The toolkit refused to build a widget. -/
  | factory (cause : ε)
  deriving DecidableEq, Repr

namespace CompileError

/-- One word for the kind of an error. -/
def kind {ε : Type} : CompileError ε → String
  | .classification _ => "classification"
  | .shape _ _ => "shape"
  | .structural _ => "structural"
  | .factory _ => "factory"

/-- The report of an error, given the report of a toolkit's own failure. -/
def message {ε : Type} (factoryMessage : ε → String) : CompileError ε → String
  | .classification name =>
      "unknown element `" ++ name ++ "`"
  | .shape element found =>
      "leaf element `" ++ element ++
        "` expects plain text, found " ++ found.describe
  | .structural found =>
      "document root must be a single widget, found " ++ found.describe
  | .factory cause =>
      factoryMessage cause

end CompileError

end WidgetTemplate
