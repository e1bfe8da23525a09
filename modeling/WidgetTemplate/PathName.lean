/-!
# Path names

A path name is segments between slashes.  Empty segments and single dots do
not lead anywhere and are left out.  The last segment is the file name, unless
it is a double dot, and the extension is what follows the last dot of the file
name, unless that dot is its first character.
-/

namespace WidgetTemplate.PathName

/-- The pieces of a list between separators; there is always at least one. -/
def splitAt (separator : Char) : List Char → List (List Char)
  | [] => [[]]
  | char :: rest =>
      if char = separator then
        [] :: splitAt separator rest
      else
        match splitAt separator rest with
        | [] => [[char]]
        | piece :: pieces => (char :: piece) :: pieces

/-- The segments of a path that lead somewhere. -/
def segments (path : String) : List String :=
  ((splitAt '/' path.toList).map String.ofList).filter fun segment =>
    segment != "" && segment != "."

/-- Whether a path starts at the root directory. -/
def isAbsolute (path : String) : Bool :=
  path.toList.head? == some '/'

/-- The name of the file a path leads to. -/
def fileName? (path : String) : Option String :=
  match (segments path).getLast? with
  | some ".." => none
  | last => last

/-- The extension of a file name. -/
def extensionOf? (name : String) : Option String :=
  let backwards := name.toList.reverse
  match backwards.dropWhile (· != '.') with
  | [] => none
  | [_] => none
  | _ :: _ => some (String.ofList (backwards.takeWhile (· != '.')).reverse)

/-- The extension of the file a path leads to. -/
def extension? (path : String) : Option String :=
  (fileName? path).bind extensionOf?

end WidgetTemplate.PathName
