import WidgetTemplate.Text.Hex
import WidgetTemplate.Yaml.Cursor

/-!
# Scalars in blocks

The header of a block scalar says whether its lines are kept as they are or
folded, what happens to the breaks at its end, and, if it likes, how far its
lines are indented.  Without that, the first line that is not empty says so.
The scalar ends in front of the first line that is indented less.
-/

namespace WidgetTemplate.Yaml.BlockScalar

/-- What happens to the breaks at the end of a scalar. -/
inductive Chomping where
  /-- All of them are dropped. -/
  | strip
  /-- One of them is kept. -/
  | clip
  /-- All of them are kept. -/
  | keep
  deriving DecidableEq, Repr, Inhabited

/-- The header of a block scalar. -/
structure Header where
  chomping : Chomping
  /-- How far the lines are indented beyond the lines around the scalar. -/
  indentation : Option Nat
  deriving Repr, Inhabited

/-- The chomping that a sign stands for. -/
def chomping? (cursor : Cursor) : Option Chomping :=
  match cursor.rest with
  | '+' :: _ => some .keep
  | '-' :: _ => some .strip
  | _ => none

/-- The digit at a cursor. -/
def digit? (cursor : Cursor) : Option Nat :=
  cursor.rest.head?.bind (Text.digitValue? 10)

/-- Reads the signs of a header, in either order; the digit is not zero. -/
def readSigns? (cursor : Cursor) : Option (Header × Cursor) :=
  match chomping? cursor, digit? cursor with
  | some chomping, _ =>
      let cursor := cursor.skip 1
      match digit? cursor with
      | some 0 => none
      | some count => some (⟨chomping, some count⟩, cursor.skip 1)
      | none => some (⟨chomping, none⟩, cursor)
  | none, some 0 => none
  | none, some count =>
      let cursor := cursor.skip 1
      match chomping? cursor with
      | some chomping => some (⟨chomping, some count⟩, cursor.skip 1)
      | none => some (⟨.clip, some count⟩, cursor)
  | none, none => some (⟨.clip, none⟩, cursor)

/-- Reads a header behind its first character, up to the next line. -/
def readHeader? (cursor : Cursor) : Option (Header × Cursor) := do
  let (header, cursor) ← readSigns? cursor
  let cursor := cursor.skipLineEnd
  if startsBreak cursor.rest then
    return (header, cursor.takeBreak.2)
  else
    none

/-- Empty lines, and what stands in front of the line after them. -/
structure EmptyLines where
  breaks : List Char
  /-- The greatest column that spaces reach. -/
  widest : Nat
  cursor : Cursor

/--
Passes empty lines, and the indentation of the next line as far as `indent`,
or all of it while that is not known.  A tab is not indentation.
-/
def passEmptyLines
    (indent : Option Nat)
    (breaks : List Char)
    (widest : Nat)
    (mark : Mark) :
    List Char → Option EmptyLines
  | '\r' :: '\n' :: rest =>
      passEmptyLines indent (breaks ++ ['\n']) (max widest mark.column)
        (mark.pastBreak 2) rest
  | char :: rest =>
      let isIndentation := indent.all (mark.column < ·)
      if isIndentation && char == ' ' then
        passEmptyLines indent breaks widest (mark.past 1) rest
      else if isIndentation && char == '\t' then
        none
      else if isBreak char then
        passEmptyLines indent (breaks ++ [keptBreak char]) (max widest mark.column)
          (mark.pastBreak 1) rest
      else
        some
          { breaks
            widest := max widest mark.column
            cursor := ⟨char :: rest, mark⟩ }
  | [] =>
      some
        { breaks
          widest := max widest mark.column
          cursor := ⟨[], mark⟩ }

/-- How much of a block scalar has been read. -/
structure Progress where
  /-- The characters so far, the latest first. -/
  done : List Char
  /-- Whether the last line began with a blank. -/
  wasBlank : Bool
  /-- The break behind the last line. -/
  lastBreak : List Char
  /-- The breaks of the empty lines behind it. -/
  emptyLines : List Char
  cursor : Cursor

/-- What stands between two lines of a scalar. -/
def between (isFolded : Bool) (progress : Progress) : List Char :=
  let isSpaced := progress.wasBlank || (progress.cursor.rest.head?.any isBlank)
  let lineBreak :=
    if isFolded && progress.lastBreak == ['\n'] && !isSpaced then
      if progress.emptyLines.isEmpty then [' '] else []
    else
      progress.lastBreak
  lineBreak ++ progress.emptyLines

/--
Reads the lines of a scalar that are indented to a column.  Every line has a
character, so a list longer than the text bounds the steps.
-/
def readLines (isFolded : Bool) (indent : Nat) (progress : Progress) :
    (steps : List Char) → Option Progress
  | [] => some progress
  | _ :: steps =>
      let cursor := progress.cursor
      if cursor.mark.column ≠ indent ∨ cursor.rest.isEmpty then
        some progress
      else
        let (line, afterLine) := cursor.span (!isBreak ·)
        let (lastBreak, next) := afterLine.takeBreak
        match passEmptyLines (some indent) [] 0 next.mark next.rest with
        | none => none
        | some emptyLines =>
            readLines isFolded indent
              { done := line.reverse ++
                ((between isFolded progress).reverse ++ progress.done)
                wasBlank := line.head?.any isBlank
                lastBreak
                emptyLines := emptyLines.breaks
                cursor := emptyLines.cursor }
              steps

/-- The breaks at the end of a scalar that belong to it. -/
def ending (chomping : Chomping) (progress : Progress) : List Char :=
  match chomping with
  | .strip => []
  | .clip => progress.lastBreak
  | .keep => progress.lastBreak ++ progress.emptyLines

/--
Reads a block scalar at its first character.  The lines around it are indented
to the column `outer`, which is negative if there are none.
-/
def read? (isFolded : Bool) (outer : Int) (cursor : Cursor) :
    Option (String × Cursor) := do
  let (header, cursor) ← readHeader? (cursor.skip 1)
  let known := header.indentation.map (outer.toNat + ·)
  let emptyLines ← passEmptyLines known [] 0 cursor.mark cursor.rest
  let indent := known.getD (max emptyLines.widest (max (outer + 1).toNat 1))
  let start : Progress :=
    { done := []
      wasBlank := false
      lastBreak := []
      emptyLines := emptyLines.breaks
      cursor := emptyLines.cursor }
  let progress ← readLines isFolded indent start (' ' :: cursor.rest)
  let chars := (ending header.chomping progress).reverse ++ progress.done
  return (String.ofList chars.reverse, progress.cursor)

end WidgetTemplate.Yaml.BlockScalar
