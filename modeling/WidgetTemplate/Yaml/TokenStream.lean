import WidgetTemplate.Yaml.BlockScalar
import WidgetTemplate.Yaml.Directive
import WidgetTemplate.Yaml.Lexing
import WidgetTemplate.Yaml.PlainScalar
import WidgetTemplate.Yaml.QuotedScalar

/-!
# The tokens of a text

A text is cut into tokens from its start to its end.  The first character of a
token tells what it is; some characters only count in front of a gap, and some
only outside of brackets.
-/

namespace WidgetTemplate.Yaml

namespace Lex

/--
Moves past blanks, comments and breaks to the next token.  A tab is no
indentation, so it is not passed where a key of a block may start.  A list
longer than the text bounds the steps.
-/
def skipToToken : (steps : List Char) → Lex Unit
  | [] => pure ()
  | _ :: steps => do
      let lexing ← get
      let isGap (char : Char) : Bool :=
        char == ' ' || (char == '\t' && (lexing.inFlow || !lexing.keyAllowed))
      let cursor := lexing.cursor.skipWhile isGap
      let cursor :=
        if cursor.startsWith '#' then
          cursor.skipWhile (!isBreak ·)
        else
          cursor
      match cursor.takeBreak with
      | ([], _) => moveTo cursor
      | (_, next) =>
          moveTo next
          if !lexing.inFlow then
            allowKey true
          skipToToken steps

/-- Moves past the mark that may start a text to tell its encoding. -/
def skipByteOrderMark : Lex Unit := do
  let cursor := (← get).cursor
  if cursor.startsWith '\ufeff' then
    moveTo (cursor.skip 1)

/-- Reads the end of a text. -/
def readEnd : Lex Unit := do
  let cursor := (← get).cursor
  moveTo { cursor with mark := cursor.mark.atLineStart }
  closeBlocks (-1)
  dropCandidate
  emit .streamEnd (← get).cursor.mark

/-- Reads a directive. -/
def readDirective : Lex Unit := do
  closeBlocks (-1)
  dropCandidate
  allowKey false
  let cursor := (← get).cursor
  let (lexeme, next) ← Directive.read? cursor
  moveTo next
  emit lexeme cursor.mark

/-- Reads a divider of documents. -/
def readDivider (lexeme : Lexeme) : Lex Unit := do
  closeBlocks (-1)
  dropCandidate
  allowKey false
  emitChars lexeme 3

/-- Reads an opening bracket. -/
def readOpening (lexeme : Lexeme) : Lex Unit := do
  noteCandidate
  enterBracket
  allowKey true
  emitChars lexeme 1

/-- Reads a closing bracket. -/
def readClosing (lexeme : Lexeme) : Lex Unit := do
  dropCandidate
  leaveBracket
  allowKey false
  emitChars lexeme 1

/-- Reads the comma between entries in brackets. -/
def readFlowEntry : Lex Unit := do
  dropCandidate
  allowKey true
  emitChars .flowEntry 1

/-- Reads the dash in front of an entry of a block. -/
def readBlockEntry : Lex Unit := do
  openBlockHere .blockSequenceStart
  dropCandidate
  allowKey true
  emitChars .blockEntry 1

/-- Reads the question mark in front of a key. -/
def readKey : Lex Unit := do
  openBlockHere .blockMappingStart
  dropCandidate
  allowKey (!(← get).inFlow)
  emitChars .key 1

/-- Reads the colon in front of a value. -/
def readValue : Lex Unit := do
  match (← get).candidate with
  | some candidate =>
      emitAt candidate.position .key candidate.mark
      openBlock .blockMappingStart candidate.position candidate.mark
      modify fun lexing => { lexing with candidate := none }
      allowKey false
  | none =>
      openBlockHere .blockMappingStart
      allowKey (!(← get).inFlow)
  emitChars .value 1

/-- Reads a token that may be a part of a key. -/
def readKeyPart (read : Cursor → Option (Lexeme × Cursor)) : Lex Unit := do
  noteCandidate
  allowKey false
  let cursor := (← get).cursor
  let (lexeme, next) ← read cursor
  moveTo next
  emit lexeme cursor.mark

/-- Reads a reference or an anchor. -/
def readName (lexeme : String → Lexeme) : Lex Unit :=
  readKeyPart fun cursor =>
    (Property.readName? cursor).map fun (name, next) => (lexeme name, next)

/-- Reads a tag. -/
def readTag : Lex Unit := do
  let inFlow := (← get).inFlow
  readKeyPart fun cursor =>
    (Property.readTag? inFlow cursor).map fun (handle, suffix, next) =>
      (.tag handle suffix, next)

/-- Reads a scalar in quotes. -/
def readQuoted (quote : Char) : Lex Unit :=
  readKeyPart fun cursor =>
    (QuotedScalar.read? quote cursor).map fun (text, next) =>
      (.scalar text false, next)

/-- Reads a scalar in a block. -/
def readBlockScalar (isFolded : Bool) : Lex Unit := do
  dropCandidate
  allowKey true
  let lexing ← get
  let (text, next) ← BlockScalar.read? isFolded lexing.indent lexing.cursor
  moveTo next
  emit (.scalar text false) lexing.cursor.mark

/-- Reads a scalar without quotes; a key may start on a line behind it. -/
def readPlain : Lex Unit := do
  noteCandidate
  allowKey false
  let lexing ← get
  let setting : PlainScalar.Setting :=
    { inFlow := lexing.inFlow
      indent := lexing.indent + 1 }
  let reading ← PlainScalar.read? setting lexing.cursor
  moveTo reading.cursor
  if reading.brokeAfter then
    allowKey true
  emit (.scalar reading.text true) lexing.cursor.mark

/-- Whether a character can start a scalar without quotes. -/
def startsPlain (inFlow : Bool) (char : Char) (rest : List Char) : Bool :=
  if char == '-' then
    !rest.head?.any isBlank
  else if char == '?' || char == ':' then
    !inFlow && !startsGap rest
  else
    !isBlank char && !isBreak char &&
      !",[]\x7b\x7d#&*!|>'\"%@`".toList.contains char

/-- Reads the token that starts with a character. -/
def readTokenAt (inFlow atLineStart : Bool) (char : Char)
    (rest : List Char) : Lex Unit :=
  let countsAsMark := inFlow || startsGap rest
  if atLineStart && char == '%' then
    readDirective
  else if atLineStart && startsDivider '-' (char :: rest) then
    readDivider .documentStart
  else if atLineStart && startsDivider '.' (char :: rest) then
    readDivider .documentEnd
  else
    match char with
    | '[' => readOpening .flowSequenceStart
    | '\x7b' => readOpening .flowMappingStart
    | ']' => readClosing .flowSequenceEnd
    | '\x7d' => readClosing .flowMappingEnd
    | ',' => readFlowEntry
    | '*' => readName .reference
    | '&' => readName .anchor
    | '!' => readTag
    | '\'' => readQuoted '\''
    | '"' => readQuoted '"'
    | char =>
        if char == '-' && startsGap rest then
          readBlockEntry
        else if char == '?' && countsAsMark then
          readKey
        else if char == ':' && countsAsMark then
          readValue
        else if char == '|' && !inFlow then
          readBlockScalar false
        else if char == '>' && !inFlow then
          readBlockScalar true
        else if startsPlain inFlow char rest then
          readPlain
        else
          failure

/--
Reads the tokens up to the end of a text.  Every token but the last one has a
character, so a list longer than the text bounds the steps.
-/
def readTokens : (steps : List Char) → Lex Unit
  | [] => failure
  | _ :: steps => do
      skipToToken (' ' :: (← get).cursor.rest)
      dropOldCandidates
      let lexing ← get
      closeBlocks lexing.cursor.mark.column
      match lexing.cursor.rest with
      | [] => readEnd
      | char :: rest =>
          readTokenAt lexing.inFlow (lexing.cursor.mark.column == 0) char rest
          readTokens steps

end Lex

/-- Reads a whole text. -/
def Lex.readText (text : List Char) : Lex Unit := do
  Lex.skipByteOrderMark
  Lex.readTokens (' ' :: text)

/-- The tokens of a text, the last of which is its end. -/
def tokensOf? (text : List Char) : Option (List Token) :=
  if text.all isPermitted then
    ((Lex.readText text).run (.start text)).map (·.2.tokens.toList)
  else
    none

end WidgetTemplate.Yaml
