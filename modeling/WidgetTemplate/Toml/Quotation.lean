import WidgetTemplate.Text.Hex
import WidgetTemplate.Toml.Spacing

/-!
# Strings of TOML

A string stands in double quotes, with escapes, or in single quotes, without.
Three quotes let it go over lines; then a break right behind the opening quotes
is dropped, up to two quotes may stand inside, and the backslash at the end of
a line drops the break and the blanks of the following lines.
-/

namespace WidgetTemplate.Toml.Quotation

/-- The character an escape of one character stands for. -/
def simpleEscape? : Char → Option Char
  | 'b' => some '\x08'
  | 't' => some '\t'
  | 'n' => some '\n'
  | 'f' => some '\x0c'
  | 'r' => some '\r'
  | '"' => some '"'
  | '\\' => some '\\'
  | _ => none

/-- The character of hexadecimal digits at the start of a text. -/
def charOfDigits? (count : Nat) (text : List Char) : Option (Char × List Char) :=
  let digits := text.take count
  if digits.length = count then
    (Text.digitsValue? 16 digits).bind fun code =>
      if code.isValidChar then some (Char.ofNat code, text.drop count) else none
  else
    none

/-- The character of an escape behind its backslash. -/
def escape? : List Char → Option (Char × List Char)
  | 'u' :: rest => charOfDigits? 4 rest
  | 'U' :: rest => charOfDigits? 8 rest
  | char :: rest => (simpleEscape? char).map (·, rest)
  | [] => none

/-- What is left of a text after blanks and breaks. -/
def skipWhite : List Char → List Char
  | '\r' :: '\n' :: rest => skipWhite rest
  | char :: rest =>
      if isBlank char || char == '\n' then
        skipWhite rest
      else
        char :: rest
  | [] => []

/-- What is left of a text after the rest of a line that ends in a backslash. -/
def joinLine? (text : List Char) : Option (List Char) :=
  (skipBreak? (skipBlanks text)).map skipWhite

/--
Reads a string on one line behind its opening quote.  The characters so far
are in `done`, the latest first; a list longer than the text bounds the steps.
-/
def readLine (quote : Char) (done : List Char) :
    (steps : List Char) → Reader String
  | [], _ => none
  | _ :: _, [] => none
  | _ :: steps, char :: rest =>
      if char = quote then
        some (String.ofList done.reverse, rest)
      else if char = '\\' ∧ quote = '"' then
        match escape? rest with
        | some (meant, rest) => readLine quote (meant :: done) steps rest
        | none => none
      else if isPrintable char then
        readLine quote (char :: done) steps rest
      else
        none

/-- How many quotes may stand in front of the closing ones. -/
def maxInnerQuotes : Nat := 2

/-- Reads a string over several lines behind its opening quotes and first break. -/
def readLines (quote : Char) (done : List Char) :
    (steps : List Char) → Reader String
  | [], _ => none
  | _ :: _, [] => none
  | _ :: steps, char :: rest =>
      if char = quote then
        let count := ((char :: rest).takeWhile (· == quote)).length
        if 3 ≤ count then
          let inner := min (count - 3) maxInnerQuotes
          some
            (String.ofList (List.replicate inner quote ++ done).reverse,
              rest.drop (inner + 2))
        else
          readLines quote (char :: done) steps rest
      else if char = '\\' ∧ quote = '"' then
        match joinLine? rest, escape? rest with
        | some rest, _ => readLines quote done steps rest
        | none, some (meant, rest) => readLines quote (meant :: done) steps rest
        | none, none => none
      else
        match skipBreak? (char :: rest) with
        | some rest => readLines quote ('\n' :: done) steps rest
        | none =>
            if isPrintable char then
              readLines quote (char :: done) steps rest
            else
              none

/-- Reads a string at its opening quote. -/
def read (quote : Char) : Reader String := fun text =>
  if text.take 3 = [quote, quote, quote] then
    let rest := text.drop 3
    readLines quote [] text ((skipBreak? rest).getD rest)
  else
    readLine quote [] text (text.drop 1)

end WidgetTemplate.Toml.Quotation
