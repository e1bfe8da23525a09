/-!
# Places in YAML text

A cursor is what is left of a text together with the place of its first
character.  A line ends with a carriage return, a line feed, both together, or
one of the separators U+0085, U+2028 and U+2029; a break is remembered as a
line feed, unless it is one of the last two.
-/

namespace WidgetTemplate.Yaml

/-- A place in a text; lines and columns count from zero. -/
structure Mark where
  /-- How many characters stand in front of the place. -/
  index : Nat
  line : Nat
  column : Nat
  deriving DecidableEq, Repr, Inhabited

namespace Mark

/-- Where a text begins. -/
def start : Mark where
  index := 0
  line := 0
  column := 0

/-- The place behind characters of one line. -/
def past (mark : Mark) (count : Nat) : Mark where
  index := mark.index + count
  line := mark.line
  column := mark.column + count

/-- The place behind a break of one or two characters. -/
def pastBreak (mark : Mark) (count : Nat) : Mark where
  index := mark.index + count
  line := mark.line + 1
  column := 0

/-- The place, or the start of the next line if it is inside a line. -/
def atLineStart (mark : Mark) : Mark :=
  if mark.column = 0 then
    mark
  else
    { mark with line := mark.line + 1, column := 0 }

end Mark

/-- Whether a character may stand in YAML text. -/
def isPermitted (char : Char) : Bool :=
  let code := char.toNat
  code == 0x9 || code == 0xa || code == 0xd ||
    (0x20 ≤ code && code ≤ 0x7e) ||
    code == 0x85 ||
    (0xa0 ≤ code && code ≤ 0xd7ff) ||
    (0xe000 ≤ code && code ≤ 0xfffd) ||
    0x10000 ≤ code

/-- Whether a character ends a line. -/
def isBreak (char : Char) : Bool :=
  char == '\n' || char == '\r' ||
    char.toNat == 0x85 || char.toNat == 0x2028 || char.toNat == 0x2029

/-- Whether a character is a space or a tab. -/
def isBlank (char : Char) : Bool :=
  char == ' ' || char == '\t'

/-- The character that a break is remembered as. -/
def keptBreak (char : Char) : Char :=
  if char.toNat == 0x2028 || char.toNat == 0x2029 then char else '\n'

/-- Whether a name of a handle, an anchor or a directive may have a character. -/
def isNameChar (char : Char) : Bool :=
  char.isAlphanum || char == '_' || char == '-'

/-- Whether nothing but a blank, a break or the end follows. -/
def startsGap : List Char → Bool
  | [] => true
  | char :: _ => isBlank char || isBreak char

/-- Whether a break or the end follows. -/
def startsBreak : List Char → Bool
  | [] => true
  | char :: _ => isBreak char

/-- Whether three equal characters follow, and then a gap. -/
def startsDivider (char : Char) : List Char → Bool
  | first :: second :: third :: rest =>
      first == char && second == char && third == char && startsGap rest
  | _ => false

/-- What is left of a text, and where it begins. -/
structure Cursor where
  rest : List Char
  mark : Mark
  deriving Inhabited

namespace Cursor

/-- The cursor behind a number of characters of one line. -/
def skip (cursor : Cursor) (count : Nat) : Cursor where
  rest := cursor.rest.drop count
  mark := cursor.mark.past count

/-- The characters up to the first one that fails a test, and the cursor there. -/
def span (cursor : Cursor) (test : Char → Bool) : List Char × Cursor :=
  let taken := cursor.rest.takeWhile test
  (taken, cursor.skip taken.length)

/-- The cursor at the first character that fails a test. -/
def skipWhile (cursor : Cursor) (test : Char → Bool) : Cursor :=
  (cursor.span test).2

/-- The break at a cursor, if there is one, and the cursor behind it. -/
def takeBreak (cursor : Cursor) : List Char × Cursor :=
  match cursor.rest with
  | '\r' :: '\n' :: rest => (['\n'], ⟨rest, cursor.mark.pastBreak 2⟩)
  | char :: rest =>
      if isBreak char then
        ([keptBreak char], ⟨rest, cursor.mark.pastBreak 1⟩)
      else
        ([], cursor)
  | [] => ([], cursor)

/-- The cursor behind the blanks and the comment that may end a line. -/
def skipLineEnd (cursor : Cursor) : Cursor :=
  let cursor := cursor.skipWhile isBlank
  match cursor.rest with
  | '#' :: _ => cursor.skipWhile (!isBreak ·)
  | _ => cursor

/-- Whether the text at a cursor starts with a character. -/
def startsWith (cursor : Cursor) (char : Char) : Bool :=
  cursor.rest.head? == some char

/-- Whether a divider of documents stands at the start of a line. -/
def atDivider (cursor : Cursor) : Bool :=
  cursor.mark.column == 0 &&
    (startsDivider '-' cursor.rest || startsDivider '.' cursor.rest)

end Cursor

end WidgetTemplate.Yaml
