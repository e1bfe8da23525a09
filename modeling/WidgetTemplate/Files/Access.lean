/-!
# Access to files

A run reads files by their path names.  What it needs is the text of a file,
or why there is none, and whether a path leads to a file at all; where the
files are is left open.
-/

namespace WidgetTemplate

/-- Why a file is not read. -/
inductive FileError where
  | notFound
  /-- A part of the path in front of a slash is not a directory. -/
  | notDirectory
  | isDirectory
  | nameTooLong
  | nulInName
  | notUtf8
  /-- Another error, with the report of the system. -/
  | other (report : String)
  deriving DecidableEq, Repr, Inhabited

/-- The report of an error. -/
def FileError.message : FileError → String
  | .notFound => "No such file or directory (os error 2)"
  | .notDirectory => "Not a directory (os error 20)"
  | .isDirectory => "Is a directory (os error 21)"
  | .nameTooLong => "File name too long (os error 36)"
  | .nulInName => "file name contained an unexpected NUL byte"
  | .notUtf8 => "stream did not contain valid UTF-8"
  | .other report => report

/-- A way to reach files. -/
structure FileAccess (m : Type → Type) where
  /-- The text of a file. -/
  read : String → m (Except FileError String)
  /-- Whether a path leads to a file. -/
  isFile : String → m Bool

end WidgetTemplate
