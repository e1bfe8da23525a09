/-!
# Positions in a text

A position counts lines from one, and the bytes of a line in front of it.
-/

namespace WidgetTemplate.Text

/-- A place in a text. -/
structure Position where
  line : Nat
  column : Nat
  deriving DecidableEq, Repr, Inhabited

/-- How reports name a position. -/
def Position.text (position : Position) : String :=
  "line " ++ toString position.line ++ " column " ++ toString position.column

/-- The number of bytes of characters. -/
def byteLength (chars : List Char) : Nat :=
  chars.foldl (fun total char => total + char.utf8Size) 0

/--
The position that is `bytes` bytes past `position`, where `chars` begins.  The
bytes may end inside a character.
-/
def Position.advance (position : Position) (bytes : Nat) : List Char → Position
  | [] => position
  | char :: rest =>
      if bytes = 0 then
        position
      else if char = '\n' then
        advance ⟨position.line + 1, 0⟩ (bytes - 1) rest
      else if char.utf8Size ≤ bytes then
        advance ⟨position.line, position.column + char.utf8Size⟩
          (bytes - char.utf8Size) rest
      else
        ⟨position.line, position.column + bytes⟩

/-- The position that is a number of bytes behind the start of a text. -/
def positionAt (source : List Char) (bytes : Nat) : Position :=
  Position.advance ⟨1, 0⟩ bytes source

end WidgetTemplate.Text
