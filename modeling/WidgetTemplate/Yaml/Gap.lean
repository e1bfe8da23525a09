import WidgetTemplate.Yaml.Cursor

/-!
# Gaps between the words of a scalar

The blanks and breaks between two words of a scalar are folded: a single break
is a space, and of several breaks the first one is dropped.  Blanks next to
breaks do not count.  A break that is not remembered as a line feed is never
dropped.
-/

namespace WidgetTemplate.Yaml

/-- The blanks in front of the first break of a gap, and the breaks. -/
structure Gap where
  blanks : List Char
  breaks : List Char
  deriving Repr, Inhabited

namespace Gap

/-- A gap without blanks and breaks. -/
def none : Gap where
  blanks := []
  breaks := []

/-- Whether two words stand next to each other. -/
def isEmpty (gap : Gap) : Bool :=
  gap.blanks.isEmpty && gap.breaks.isEmpty

/-- Whether the gap has a break. -/
def isBroken (gap : Gap) : Bool :=
  !gap.breaks.isEmpty

/-- The gap with one more blank. -/
def addBlank (gap : Gap) (char : Char) : Gap :=
  if gap.isBroken then gap else { gap with blanks := gap.blanks ++ [char] }

/-- The gap with one more break. -/
def addBreak (gap : Gap) (char : Char) : Gap :=
  { gap with breaks := gap.breaks ++ [keptBreak char] }

/-- What a gap is as a part of the scalar. -/
def folded (gap : Gap) : List Char :=
  match gap.breaks with
  | [] => gap.blanks
  | ['\n'] => [' ']
  | '\n' :: others => others
  | breaks => breaks

/-- The gap at a cursor, as an addition to one that began before, and its end. -/
def extend (gap : Gap) (mark : Mark) : List Char → Gap × Cursor
  | '\r' :: '\n' :: rest => (gap.addBreak '\n').extend (mark.pastBreak 2) rest
  | char :: rest =>
      if isBlank char then
        (gap.addBlank char).extend (mark.past 1) rest
      else if isBreak char then
        (gap.addBreak char).extend (mark.pastBreak 1) rest
      else
        (gap, ⟨char :: rest, mark⟩)
  | [] => (gap, ⟨[], mark⟩)

end Gap

end WidgetTemplate.Yaml
