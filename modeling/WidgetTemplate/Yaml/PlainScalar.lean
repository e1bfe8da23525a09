import WidgetTemplate.Yaml.Gap

/-!
# Scalars without quotes

A plain scalar goes on to a colon in front of a gap, to a comment, to a line
that is not indented enough, or, inside brackets, to a comma or a bracket.
Blanks and breaks at its end do not belong to it.
-/

namespace WidgetTemplate.Yaml.PlainScalar

/-- Whether a character is one of the punctuation inside brackets. -/
def isFlowMark (char : Char) : Bool :=
  char == ',' || char == '[' || char == ']' || char == '\x7b' || char == '\x7d'

/-- What is around a plain scalar. -/
structure Setting where
  /-- Whether brackets are open around it. -/
  inFlow : Bool
  /-- The column that the lines after the first one must reach. -/
  indent : Int

/-- A plain scalar that has been read, and the cursor behind it. -/
structure Reading where
  text : String
  /-- Whether a break was passed behind the last word. -/
  brokeAfter : Bool
  cursor : Cursor

/-- Whether a colon would be mistaken for the punctuation inside brackets. -/
def isStrayColon (char : Char) (rest : List Char) : Bool :=
  char == ':' &&
    match rest.head? with
    | some next => isFlowMark next || next == '?'
    | none => false

/-- Whether a scalar ends in front of a character of one of its words. -/
def endsBefore (setting : Setting) (char : Char) (rest : List Char) : Bool :=
  (char == ':' && startsGap rest) || (setting.inFlow && isFlowMark char)

/-- Whether a scalar ends at a character that follows a gap. -/
def endsAfter (setting : Setting) (gap : Gap) (mark : Mark)
    (text : List Char) : Bool :=
  !gap.isEmpty &&
    ((!setting.inFlow && (mark.column : Int) < setting.indent) ||
      text.head? == some '#')

/-- The scalar of the characters `done`, the latest first, in front of a gap. -/
def finish (done : List Char) (gap : Gap) (cursor : Cursor) : Reading where
  text := String.ofList done.reverse
  brokeAfter := gap.isBroken
  cursor := cursor

/--
Reads on behind the characters `done`, the latest first, and a gap that began
after them.
-/
def readWords
    (setting : Setting)
    (done : List Char)
    (gap : Gap)
    (mark : Mark) :
    List Char → Option Reading
  | '\r' :: '\n' :: rest =>
      readWords setting done (gap.addBreak '\n') (mark.pastBreak 2) rest
  | char :: rest =>
      let cursor : Cursor := ⟨char :: rest, mark⟩
      if isBlank char then
        if gap.isBroken && char == '\t' &&
            (mark.column : Int) < setting.indent then
          none
        else
          readWords setting done (gap.addBlank char) (mark.past 1) rest
      else if isBreak char then
        readWords setting done (gap.addBreak char) (mark.pastBreak 1) rest
      else if endsAfter setting gap mark cursor.rest || cursor.atDivider then
        some (finish done gap cursor)
      else if setting.inFlow && isStrayColon char rest then
        none
      else if endsBefore setting char rest then
        some (finish done gap cursor)
      else
        readWords setting (char :: (gap.folded.reverse ++ done)) .none
          (mark.past 1) rest
  | [] => some (finish done gap ⟨[], mark⟩)

/-- Reads a plain scalar; there is none where a tab stands for indentation. -/
def read? (setting : Setting) (cursor : Cursor) : Option Reading :=
  readWords setting [] .none cursor.mark cursor.rest

end WidgetTemplate.Yaml.PlainScalar
