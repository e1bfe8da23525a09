import WidgetTemplate.Yaml.Token

/-!
# Blocks and keys

While a text is cut into tokens, indentation opens and closes blocks, and a
colon turns what stands in front of it on its line into a key.  So the place of
everything that may still become a key is remembered, one for each bracket
that is open, and the tokens of a key and its block are put in there.
-/

namespace WidgetTemplate.Yaml

/-- Something that a colon would turn into a key. -/
structure KeyCandidate where
  /-- Whether a colon has to follow, because a new line of a block starts here. -/
  isRequired : Bool
  /-- The number of tokens in front of it. -/
  position : Nat
  mark : Mark
  deriving Repr, Inhabited

/-- How far a key may be away from its colon. -/
def maxKeyLength : Nat := 1024

/-- How far a text has been cut into tokens. -/
structure Lexing where
  cursor : Cursor
  tokens : Array Token
  /-- The column of the innermost block, or -1 outside of all blocks. -/
  indent : Int
  /-- The columns around it, the innermost first. -/
  outerIndents : List Int
  /-- What may become a key inside the innermost bracket. -/
  candidate : Option KeyCandidate
  /-- What may become a key around it, one for each open bracket. -/
  outerCandidates : List (Option KeyCandidate)
  /-- Whether a key may start here. -/
  keyAllowed : Bool
  deriving Inhabited

/-- A step of cutting a text into tokens; there is none where it is not YAML. -/
abbrev Lex := StateT Lexing Option

namespace Lexing

/-- The state in front of a text. -/
def start (text : List Char) : Lexing where
  cursor := ⟨text, .start⟩
  tokens := #[]
  indent := -1
  outerIndents := []
  candidate := none
  outerCandidates := []
  keyAllowed := true

/-- Whether brackets are open. -/
def inFlow (lexing : Lexing) : Bool :=
  !lexing.outerCandidates.isEmpty

end Lexing

namespace Lex

/-- Moves to a cursor. -/
def moveTo (cursor : Cursor) : Lex Unit :=
  modify fun lexing => { lexing with cursor }

/-- Sets whether a key may start at the cursor. -/
def allowKey (keyAllowed : Bool) : Lex Unit :=
  modify fun lexing => { lexing with keyAllowed }

/-- Appends a token from a place to the cursor. -/
def emit (lexeme : Lexeme) (start : Mark) : Lex Unit :=
  modify fun lexing =>
    { lexing with
      tokens := lexing.tokens.push ⟨lexeme, start, lexing.cursor.mark⟩ }

/-- Appends a token of a number of characters of one line. -/
def emitChars (lexeme : Lexeme) (count : Nat) : Lex Unit := do
  let start := (← get).cursor.mark
  moveTo ((← get).cursor.skip count)
  emit lexeme start

/-- Puts a token without characters behind a number of tokens. -/
def emitAt (position : Nat) (lexeme : Lexeme) (mark : Mark) : Lex Unit :=
  modify fun lexing =>
    { lexing with
      tokens := lexing.tokens.insertIdxIfInBounds position ⟨lexeme, mark, mark⟩ }

/-- Closes the blocks that are indented beyond a column. -/
def closeBlocks (column : Int) : Lex Unit := do
  let lexing ← get
  if !lexing.inFlow then
    let deeper := lexing.indent :: lexing.outerIndents
    let closed := deeper.takeWhile (column < ·)
    let kept := deeper.dropWhile (column < ·)
    let mark := lexing.cursor.mark
    set
      { lexing with
        tokens := lexing.tokens ++ closed.map fun _ => Token.mk .blockEnd mark mark
        indent := kept.headD (-1)
        outerIndents := kept.tail }

/-- Opens a block at a place behind a number of tokens, unless it is open. -/
def openBlock (lexeme : Lexeme) (position : Nat) (mark : Mark) : Lex Unit := do
  let lexing ← get
  if !lexing.inFlow && lexing.indent < mark.column then
    set
      { lexing with
        indent := mark.column
        outerIndents := lexing.indent :: lexing.outerIndents }
    emitAt position lexeme mark

/-- Opens a block at the cursor, where an entry may start. -/
def openBlockHere (lexeme : Lexeme) : Lex Unit := do
  let lexing ← get
  if !lexing.inFlow then
    if lexing.keyAllowed then
      openBlock lexeme lexing.tokens.size lexing.cursor.mark
    else
      failure

/-- Gives up what might have become a key, unless it has to be one. -/
def dropCandidate : Lex Unit := do
  let lexing ← get
  if lexing.candidate.any (·.isRequired) then
    failure
  set { lexing with candidate := none }

/-- Remembers that a key may start at the cursor. -/
def noteCandidate : Lex Unit := do
  if (← get).keyAllowed then
    dropCandidate
    modify fun lexing =>
      { lexing with
        candidate := some
          { isRequired :=
            !lexing.inFlow && lexing.indent == lexing.cursor.mark.column
            position := lexing.tokens.size
            mark := lexing.cursor.mark } }

/-- A candidate as long as its colon may still follow at a place. -/
def stillOpen (mark : Mark) : Option KeyCandidate → Option (Option KeyCandidate)
  | none => some none
  | some candidate =>
      let isOver :=
        candidate.mark.line < mark.line ||
          candidate.mark.index + maxKeyLength < mark.index
      if !isOver then
        some (some candidate)
      else if candidate.isRequired then
        none
      else
        some none

/-- Gives up everything that cannot become a key at the cursor any more. -/
def dropOldCandidates : Lex Unit := do
  let lexing ← get
  let mark := lexing.cursor.mark
  let candidate ← stillOpen mark lexing.candidate
  let outerCandidates ← lexing.outerCandidates.mapM fun outer =>
    stillOpen mark outer
  set { lexing with candidate, outerCandidates }

/-- Enters a bracket. -/
def enterBracket : Lex Unit :=
  modify fun lexing =>
    { lexing with
      candidate := none
      outerCandidates := lexing.candidate :: lexing.outerCandidates }

/-- Leaves a bracket, if one is open. -/
def leaveBracket : Lex Unit :=
  modify fun lexing =>
    match lexing.outerCandidates with
    | [] => lexing
    | candidate :: outerCandidates => { lexing with candidate, outerCandidates }

end Lex

end WidgetTemplate.Yaml
