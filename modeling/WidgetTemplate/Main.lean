import WidgetTemplate.CommandLine.Run

/-!
# The program

The program runs a command line over the files of the system.
-/

namespace WidgetTemplate

/-- The number of a system error, which may be reported as its complement. -/
def errorNumber (code : UInt32) : Nat :=
  min code.toNat (UInt32.size - code.toNat)

/-- The error of a file for the number of a system error. -/
def fileErrorOfNumber (code : UInt32) (details : String) : FileError :=
  match errorNumber code with
  | 2 => .notFound
  | 20 => .notDirectory
  | 21 => .isDirectory
  | 22 => .nulInName
  | 36 => .nameTooLong
  | number => .other (details ++ " (os error " ++ toString number ++ ")")

/-- The error of a file for an error of the system. -/
def fileErrorOf : IO.Error → FileError
  | .noFileOrDirectory _ code details => fileErrorOfNumber code details
  | .inappropriateType _ code details => fileErrorOfNumber code details
  | .invalidArgument _ code details => fileErrorOfNumber code details
  | .permissionDenied _ code details => fileErrorOfNumber code details
  | .resourceExhausted _ code details => fileErrorOfNumber code details
  | .otherError code details => fileErrorOfNumber code details
  | error => .other (toString error)

/-- Reads a file of the system. -/
def readSystemFile (path : String) : IO (Except FileError String) := do
  try
    match String.fromUTF8? (← IO.FS.readBinFile path) with
    | some text => return .ok text
    | none => return .error .notUtf8
  catch error =>
    return .error (fileErrorOf error)

/-- Whether what was found under a path is a file, whatever is in it. -/
def isFound : Except FileError String → Bool
  | .ok _ => true
  | .error .notUtf8 => true
  | .error (.other _) => true
  | .error _ => false

/-- Access to the files of the system. -/
def systemFiles : FileAccess IO where
  read := readSystemFile
  isFile path := isFound <$> readSystemFile path

end WidgetTemplate

/-- Runs the command line and prints what it leaves behind. -/
def main (arguments : List String) : IO UInt32 := do
  let outcome ← WidgetTemplate.CommandLine.run WidgetTemplate.systemFiles arguments
  (← IO.getStdout).putStr outcome.output
  (← IO.getStderr).putStr outcome.errors
  return UInt32.ofNat outcome.code
