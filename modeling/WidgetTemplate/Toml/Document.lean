import WidgetTemplate.Toml.Moment
import WidgetTemplate.Toml.Number
import WidgetTemplate.Toml.Quotation
import WidgetTemplate.Toml.Table

/-!
# Documents of TOML

A document is a list of keys with their values, in sections that a header
starts.  A key may have several parts with dots between them.  Arrays and
tables in brackets may nest, and keys may have parts, up to a limit.
-/

namespace WidgetTemplate.Toml

/-- The number of brackets that may be open, and of parts of a key. -/
def maxNesting : Nat := 79

/-- What is left of a text after blanks and a character. -/
def skipMark? (mark : Char) (text : List Char) : Option (List Char) :=
  match skipBlanks text with
  | char :: rest => if char = mark then some rest else none
  | [] => none

/-- Whether a character may stand in a key without quotes. -/
def isKeyChar (char : Char) : Bool :=
  char.isAlphanum || char == '-' || char == '_'

/-- Reads a part of a key in quotes, which are not three. -/
def readQuotedPart (quote : Char) : Reader String := fun text =>
  if text.take 3 = [quote, quote, quote] then none else Quotation.read quote text

/-- Reads one part of a key. -/
def readKeyPart : Reader String := fun text =>
  match text.head? with
  | some '"' => readQuotedPart '"' text
  | some '\'' => readQuotedPart '\'' text
  | _ =>
      let part := text.takeWhile isKeyChar
      if part.isEmpty then
        none
      else
        some (String.ofList part, text.dropWhile isKeyChar)

/--
Reads the parts of a key, with the blanks around them.  A list longer than the
text bounds the steps.
-/
def readParts : (steps : List Char) → Reader (List String)
  | [], _ => none
  | _ :: steps, text => do
      let (part, rest) ← readKeyPart (skipBlanks text)
      match skipBlanks rest with
      | '.' :: later =>
          let (parts, rest) ← readParts steps later
          return (part :: parts, rest)
      | rest => return ([part], rest)

/-- Reads a key, as the parts in front of the last one and the last one. -/
def readKey : Reader (List String × String) := fun text => do
  let (parts, rest) ← readParts (' ' :: text) text
  if maxNesting < parts.length then
    none
  else
    return ((parts.dropLast, parts.getLastD ""), rest)

/-- Whether a character may stand in a value without quotes and brackets. -/
def isWordChar (char : Char) : Bool :=
  char.isAlphanum || char == '+' || char == '-' || char == '_' || char == '.'

/-- The value of a word. -/
def wordValue? (word : List Char) : Option Value :=
  match String.ofList word with
  | "true" => some (.bool true)
  | "false" => some (.bool false)
  | _ =>
      match Number.integer? word, Number.float? word with
      | some value, _ => some (.integer value)
      | none, some value => some (.float value)
      | none, none => none

/-- Reads a value without quotes and brackets. -/
def readWord : Reader Value := fun text =>
  match Moment.read text with
  | some (moment, rest) => some (.moment moment, rest)
  | none =>
      (wordValue? (text.takeWhile isWordChar)).map (·, text.dropWhile isWordChar)

/--
Reads the items of an array up to its closing bracket.  A comma may follow the
last one.
-/
def readItems (value : Reader Value) : (steps : List Char) → Reader (List Value)
  | [], _ => none
  | _ :: steps, text => do
      match skipGaps text with
      | ']' :: rest => return ([], rest)
      | text =>
          let (item, rest) ← value text
          match skipGaps rest with
          | ']' :: rest => return ([item], rest)
          | ',' :: rest =>
              let (items, rest) ← readItems value steps rest
              return (item :: items, rest)
          | _ => none

/-- Reads a key, an equals sign and a value. -/
def readPair (value : Reader Value) :
    Reader (List String × String × Value) := fun text => do
  let ((path, key), rest) ← readKey text
  let rest ← skipMark? '=' rest
  let (item, rest) ← value (skipBlanks rest)
  return ((path, key, item), rest)

/-- Reads the entries of a table in brackets, of which there is at least one. -/
def readEntries (value : Reader Value) (entries : Entries) :
    (steps : List Char) → Reader Entries
  | [], _ => none
  | _ :: steps, text => do
      let ((path, key, item), rest) ← readPair value text
      let entries ← entries.add path key (.leaf item)
      match skipBlanks rest with
      | '\x7d' :: rest => return (entries, rest)
      | ',' :: rest => readEntries value entries steps rest
      | _ => none

/-- Reads a value inside of which `budget` brackets may be open. -/
def readValue : (budget : Nat) → Reader Value
  | _, '"' :: rest => (Quotation.read '"' ('"' :: rest)).map fun (text, rest) =>
      (.string text, rest)
  | _, '\'' :: rest => (Quotation.read '\'' ('\'' :: rest)).map fun (text, rest) =>
      (.string text, rest)
  | 0, '[' :: _ => none
  | 0, '\x7b' :: _ => none
  | budget + 1, '[' :: rest =>
      (readItems (readValue budget) (' ' :: rest) rest).map fun (items, rest) =>
        (.array items, rest)
  | budget + 1, '\x7b' :: rest =>
      match skipBlanks rest with
      | '\x7d' :: rest => some (.table [], rest)
      | _ =>
          (readEntries (readValue budget) [] (' ' :: rest) rest).map
            fun (entries, rest) =>
            (.table (valuesOf entries), rest)
  | _, text => readWord text

/--
A part of a document that a header starts, or the part in front of all headers.
-/
structure Section where
  path : List String
  key : String
  /-- Whether the section is one of several tables. -/
  isListed : Bool

/-- The header of a section, at its opening bracket. -/
def readHeader : Reader Section := fun text => do
  let isListed := text.take 2 = ['[', '[']
  let ((path, key), rest) ← readKey (text.drop (if isListed then 2 else 1))
  let rest ← skipMark? ']' rest
  let rest ← if !isListed then some rest else closeListed? rest
  return (⟨path, key, isListed⟩, ← endLine? rest)
where
  /-- What is left of a text after the second closing bracket. -/
  closeListed? : List Char → Option (List Char)
    | ']' :: rest => some rest
    | _ => none

/--
Reads the lines of a section up to the next header.  A list longer than the
text bounds the steps.
-/
def readPairs : (steps : List Char) → Reader (List (List String × String × Value))
  | [], _ => none
  | _ :: steps, text => do
      match skipGaps text with
      | [] => return ([], [])
      | '[' :: rest => return ([], '[' :: rest)
      | '#' :: comment =>
          if (comment.dropWhile isPrintable).isEmpty then return ([], []) else none
      | text =>
          let (pair, rest) ← readPair (readValue maxNesting) text
          let (pairs, rest) ← readPairs steps (← endLine? rest)
          return (pair :: pairs, rest)

/-- Adds the lines of a section to a table. -/
def addPairs (pairs : List (List String × String × Value)) (entries : Entries) :
    Option Entries :=
  pairs.foldlM
    (fun entries (path, key, value) => entries.add path key (.leaf value)) entries

/-- Adds a section to a document. -/
def addSection (header : Section) (pairs : List (List String × String × Value))
    (entries : Entries) : Option Entries :=
  if header.isListed then
    entries.addListed header.path header.key (addPairs pairs)
  else
    entries.addTable header.path header.key (addPairs pairs)

/-- Reads the sections behind the first one. -/
def readSections (entries : Entries) :
    (steps : List Char) → List Char → Option Entries
  | [], _ => none
  | _ :: _, [] => some entries
  | _ :: steps, text => do
      let (header, rest) ← readHeader text
      let (pairs, rest) ← readPairs (' ' :: rest) rest
      readSections (← addSection header pairs entries) steps rest

/-- The entries of the document that a text is. -/
def entriesOf? (source : String) : Option (List (String × Value)) := do
  let text :=
    match source.toList with
    | '\ufeff' :: rest => rest
    | chars => chars
  let (pairs, rest) ← readPairs (' ' :: text) text
  let entries ← addPairs pairs []
  return valuesOf (← readSections entries (' ' :: rest) rest)

end WidgetTemplate.Toml
