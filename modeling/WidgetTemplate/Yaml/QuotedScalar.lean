import WidgetTemplate.Text.Hex
import WidgetTemplate.Yaml.Gap

/-!
# Scalars in quotes

Between single quotes, two quotes stand for one.  Between double quotes there
are escapes, and a break behind a backslash is dropped.  No divider of
documents may start a line of a quoted scalar.
-/

namespace WidgetTemplate.Yaml.QuotedScalar

/-- What an escape of one character stands for. -/
def simpleEscape? : Char → Option Char
  | '0' => some '\x00'
  | 'a' => some '\x07'
  | 'b' => some '\x08'
  | 't' => some '\t'
  | '\t' => some '\t'
  | 'n' => some '\n'
  | 'v' => some '\x0b'
  | 'f' => some '\x0c'
  | 'r' => some '\r'
  | 'e' => some '\x1b'
  | ' ' => some ' '
  | '"' => some '"'
  | '/' => some '/'
  | '\\' => some '\\'
  | 'N' => some '\u0085'
  | '_' => some '\u00a0'
  | 'L' => some '\u2028'
  | 'P' => some '\u2029'
  | _ => none

/-- The number of digits of an escape that gives a code point. -/
def escapeLength? : Char → Option Nat
  | 'x' => some 2
  | 'u' => some 4
  | 'U' => some 8
  | _ => none

/-- The character of a code point, which may not be a surrogate. -/
def charOfCode? (code : Nat) : Option Char :=
  if code.isValidChar then some (Char.ofNat code) else none

/-- The character an escape stands for, and how long the escape is. -/
def escape? (char : Char) (rest : List Char) : Option (Char × Nat) :=
  match escapeLength? char with
  | none => (simpleEscape? char).map (·, 2)
  | some length => do
      let digits := rest.take length
      let code ←
        if digits.length = length then
          Text.digitsValue? 16 digits
        else
          none
      let meant ← charOfCode? code
      return (meant, length + 2)

/-- The part of a scalar up to a gap, the closing quote or the end. -/
structure Word where
  /-- The characters, the latest first. -/
  chars : List Char
  /-- Whether a break behind a backslash ended the word. -/
  isJoined : Bool
  cursor : Cursor

/--
Reads a word behind the characters `done`.  The escapes are longer than one
character, so a list longer than the text bounds the steps.
-/
def readWord (quote : Char) (done : List Char) (cursor : Cursor) :
    (steps : List Char) → Option Word
  | [] => none
  | _ :: steps =>
      let finished : Word := ⟨done, false, cursor⟩
      match cursor.rest with
      | [] => some finished
      | char :: rest =>
          if isBlank char || isBreak char then
            some finished
          else if char = quote then
            if quote = '\'' ∧ rest.head? = some '\'' then
              readWord quote ('\'' :: done) (cursor.skip 2) steps
            else
              some finished
          else if quote = '"' ∧ char = '\\' then
            match rest with
            | [] => none
            | next :: later =>
                if isBreak next then
                  some ⟨done, true, (cursor.skip 1).takeBreak.2⟩
                else
                  match escape? next later with
                  | none => none
                  | some (meant, length) =>
                      readWord quote (meant :: done) (cursor.skip length) steps
          else
            readWord quote (char :: done) (cursor.skip 1) steps

/-- The gap behind a word, as a part of the scalar, and its end. -/
def gapAfter (word : Word) : List Char × Cursor :=
  let begun : Gap := .none
  if word.isJoined then
    let (gap, cursor) := begun.extend word.cursor.mark word.cursor.rest
    (gap.breaks, cursor)
  else
    let (gap, cursor) := begun.extend word.cursor.mark word.cursor.rest
    (gap.folded, cursor)

/--
Reads words and gaps up to the closing quote.  Every word or gap but the last
one has a character, so a list longer than the text bounds the steps.
-/
def readWords (quote : Char) (done : List Char) (cursor : Cursor) :
    (steps : List Char) → Option (String × Cursor)
  | [] => none
  | _ :: steps =>
      if cursor.atDivider || cursor.rest.isEmpty then
        none
      else
        match readWord quote done cursor (' ' :: cursor.rest) with
        | none => none
        | some word =>
            if !word.isJoined && word.cursor.startsWith quote then
              some (String.ofList word.chars.reverse, word.cursor.skip 1)
            else
              let (gap, next) := gapAfter word
              readWords quote (gap.reverse ++ word.chars) next steps

/--
Reads a scalar at its opening quote, if it is closed and its escapes are known.
-/
def read? (quote : Char) (cursor : Cursor) : Option (String × Cursor) :=
  readWords quote [] (cursor.skip 1) (' ' :: cursor.rest)

end WidgetTemplate.Yaml.QuotedScalar
