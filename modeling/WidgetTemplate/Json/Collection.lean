import WidgetTemplate.Json.Lexeme

/-!
# Lists and objects in JSON text

The items of a list and the entries of an object are read one after another up
to the closing bracket.  When an item fails without a position of its own, the
failure is placed behind the bracket or comma that follows it.
-/

namespace WidgetTemplate.Json

/-- What follows an item: whether there is one more, and where it starts. -/
def nextItem (isFirst : Bool) (text : List Char) :
    Except Failure (Bool × List Char) :=
  match skipGaps text with
  | [] => .error (.here .eofInList [])
  | ']' :: rest => .ok (false, ']' :: rest)
  | char :: rest =>
      if isFirst then
        .ok (true, char :: rest)
      else if char = ',' then
        match skipGaps rest with
        | [] => .error (.here .eofInValue [])
        | ']' :: later => .error (.next .trailingComma (']' :: later))
        | later => .ok (true, later)
      else
        .error (.next .expectedListCommaOrEnd (char :: rest))

/-- What follows an entry: whether there is one more, and where its key starts. -/
def nextEntry (isFirst : Bool) (text : List Char) :
    Except Failure (Bool × List Char) :=
  match skipGaps text with
  | [] => .error (.here .eofInObject [])
  | '\x7d' :: rest => .ok (false, '\x7d' :: rest)
  | char :: rest =>
      if isFirst then
        if char = '"' then
          .ok (true, rest)
        else
          .error (.next .keyNotString (char :: rest))
      else if char = ',' then
        match skipGaps rest with
        | [] => .error (.here .eofInValue [])
        | '"' :: later => .ok (true, later)
        | '\x7d' :: later => .error (.next .trailingComma ('\x7d' :: later))
        | later => .error (.next .keyNotString later)
      else
        .error (.next .expectedObjectCommaOrEnd (char :: rest))

/-- Reads the colon behind a key. -/
def readColon (text : List Char) : Except Failure (List Char) :=
  match skipGaps text with
  | [] => .error (.here .eofInObject [])
  | ':' :: rest => .ok rest
  | rest => .error (.next .expectedColon rest)

/-- Reads the bracket that closes a list. -/
def closeList (text : List Char) : Except Failure (List Char) :=
  match skipGaps text with
  | [] => .error (.here .eofInList [])
  | ']' :: rest => .ok rest
  | ',' :: rest =>
      match skipGaps rest with
      | ']' :: later => .error (.next .trailingComma (']' :: later))
      | later => .error (.next .trailingCharacters later)
  | rest => .error (.next .trailingCharacters rest)

/-- Reads the bracket that closes an object. -/
def closeObject (text : List Char) : Except Failure (List Char) :=
  match skipGaps text with
  | [] => .error (.here .eofInObject [])
  | '\x7d' :: rest => .ok rest
  | ',' :: rest => .error (.next .trailingComma (',' :: rest))
  | rest => .error (.next .trailingCharacters rest)

/-- What is left when reading a closing bracket ends, well or not. -/
def afterClose (closed : Except Failure (List Char)) : List Char :=
  match closed with
  | .ok rest => rest
  | .error failure => failure.rest

/--
Closes what a reader was inside of.  A failure of the reader stands, and is
placed where the closing ends if it has no position.
-/
def closing
    {α : Type}
    (close : List Char → Except Failure (List Char))
    (result : Except Failure (α × List Char)) :
    Except Failure (α × List Char) :=
  match result with
  | .error failure => .error (failure.settle (afterClose (close failure.rest)))
  | .ok (value, rest) =>
      match close rest with
      | .ok rest => .ok (value, rest)
      | .error failure => .error failure

/--
Reads items up to the closing bracket.  Every item takes at least one
character, so a list longer than the text bounds the steps.
-/
def readItems {α : Type} (item : Reader α) :
    (steps : List Char) → (isFirst : Bool) → Reader (List α)
  | [], _, rest => .error (.here .eofInList rest)
  | _ :: steps, isFirst, text => do
      let (more, rest) ← nextItem isFirst text
      if more then
        let (value, rest) ← item rest
        let (values, rest) ← readItems item steps false rest
        return (value :: values, rest)
      else
        return ([], rest)

/-- Reads a list behind its opening bracket. -/
def readList {α : Type} (item : Reader α) : Reader (List α) := fun text =>
  closing closeList (readItems item (' ' :: text) true text)

/--
Reads entries up to the closing bracket.  The reader of an entry starts behind
the opening quote of its key and takes up the state that the entries before it
left.  A list longer than the text bounds the steps.
-/
def readEntriesWithin {σ : Type} (entry : σ → Reader σ) :
    (steps : List Char) → (isFirst : Bool) → σ → Reader σ
  | [], _, _, rest => .error (.here .eofInObject rest)
  | _ :: steps, isFirst, state, text => do
      let (more, rest) ← nextEntry isFirst text
      if more then
        let (state, rest) ← entry state rest
        readEntriesWithin entry steps false state rest
      else
        return (state, rest)

/-- Reads the entries of an object behind its opening bracket. -/
def readEntries {σ : Type} (entry : σ → Reader σ) (state : σ) :
    Reader σ := fun text =>
  readEntriesWithin entry (' ' :: text) true state text

/--
The value that a text which does not start a value of the expected type starts
instead, as a failure.
-/
def unexpected (expected : String) (text : List Char) : Failure :=
  let mismatch (found : Found) (rest : List Char) : Failure :=
    .here (.invalidType found expected) rest
  let word (found : Found) (letters : String) (rest : List Char) : Failure :=
    match readWord letters.toList rest with
    | .ok rest => mismatch found rest
    | .error failure => failure
  let numeral (text : List Char) : Failure :=
    match readNumber text with
    | .ok (value, rest) => mismatch value.found rest
    | .error failure => failure
  match text with
  | 'n' :: rest => word .null "ull" rest
  | 't' :: rest => word (.bool true) "rue" rest
  | 'f' :: rest => word (.bool false) "alse" rest
  | '-' :: _ => numeral text
  | '"' :: rest =>
      match readString [] rest with
      | .ok (value, rest) => mismatch (.string value) rest
      | .error failure => failure
  | '[' :: _ => mismatch .sequence text
  | '\x7b' :: _ => mismatch .map text
  | char :: _ =>
      if char.isDigit then numeral text else .next .expectedValue text
  | [] => .here .eofInValue []

/-- Reads a string that stands behind blanks. -/
def readStringValue : Reader String := fun text =>
  match skipGaps text with
  | '"' :: rest => readString [] rest
  | rest => .error (unexpected "a string" rest)

end WidgetTemplate.Json
