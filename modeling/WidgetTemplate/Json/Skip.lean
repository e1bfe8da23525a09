import WidgetTemplate.Json.Lexeme

/-!
# Passing over JSON values

A value that nobody asked for is passed over: its text must be well formed,
but its strings and numbers are not evaluated and it may nest to any depth.
-/

namespace WidgetTemplate.Json

/-- Passes over a string behind its opening quote. -/
def skipString : List Char → Except Failure (List Char)
  | [] => .error (.here .eofInString [])
  | '"' :: rest => .ok rest
  | ['\\'] => .error (.here .eofInString [])
  | '\\' :: 'u' :: a :: b :: c :: d :: rest =>
      match hexValue4? a b c d with
      | none => .error (badHexEscape (a :: b :: c :: d :: rest))
      | some _ => skipString rest
  | '\\' :: 'u' :: rest => .error (badHexEscape rest)
  | '\\' :: char :: rest =>
      match simpleEscape? char with
      | some _ => skipString rest
      | none => .error (.next .invalidEscape (char :: rest))
  | char :: rest =>
      if char.toNat < 0x20 then
        .error (.here .controlCharacter (char :: rest))
      else
        skipString rest

/-- Passes over the exponent of a number behind its letter. -/
def skipExponent (text : List Char) : Except Failure (List Char) :=
  let digits :=
    match text with
    | '+' :: rest => rest
    | '-' :: rest => rest
    | rest => rest
  let (found, rest) := spanDigits digits
  if found.isEmpty then .error (.next .invalidNumber rest) else .ok rest

/-- Passes over the exponent of a number, if it has one. -/
def skipExponentOrEnd : List Char → Except Failure (List Char)
  | 'e' :: rest => skipExponent rest
  | 'E' :: rest => skipExponent rest
  | rest => .ok rest

/-- Passes over the fraction and exponent of a number, if it has them. -/
def skipFractionOrEnd : List Char → Except Failure (List Char)
  | '.' :: text =>
      let (found, rest) := spanDigits text
      if found.isEmpty then
        .error (.next .invalidNumber rest)
      else
        skipExponentOrEnd rest
  | text => skipExponentOrEnd text

/-- Passes over a number behind its sign. -/
def skipUnsigned : List Char → Except Failure (List Char)
  | [] => .error (.here .invalidNumber [])
  | '0' :: rest =>
      if (rest.head?.map Char.isDigit).getD false then
        .error (.next .invalidNumber rest)
      else
        skipFractionOrEnd rest
  | char :: rest =>
      if char.isDigit then
        skipFractionOrEnd (spanDigits rest).2
      else
        .error (.next .invalidNumber (char :: rest))

/-- What is open around the place that is read. -/
inductive Frame where
  | list
  | object
  deriving DecidableEq

/-- What is read next while a value is passed over. -/
inductive Turn where
  /-- A value. -/
  | value
  /-- A comma or a closing bracket behind a value. -/
  | separator

/-- The bracket that closes a frame. -/
def Frame.bracket : Frame → Char
  | .list => ']'
  | .object => '\x7d'

/-- What is wrong with a text that ends inside a frame. -/
def Frame.eof : Frame → Cause
  | .list => .eofInList
  | .object => .eofInObject

/-- What is wrong with a text that goes on without a comma inside a frame. -/
def Frame.noComma : Frame → Cause
  | .list => .expectedListCommaOrEnd
  | .object => .expectedObjectCommaOrEnd

/-- Passes over the key of an entry, which only objects have. -/
def skipKey (frame : Frame) (text : List Char) : Except Failure (List Char) :=
  match frame with
  | .list => .ok text
  | .object =>
      match skipGaps text with
      | [] => .error (.here .eofInObject [])
      | '"' :: rest =>
          match skipString rest with
          | .error failure => .error failure
          | .ok rest =>
              match skipGaps rest with
              | [] => .error (.here .eofInObject [])
              | ':' :: rest => .ok rest
              | rest => .error (.next .expectedColon rest)
      | rest => .error (.next .keyNotString rest)

/-- Passes over a value without parts, or finds an opening bracket. -/
def skipScalar (text : List Char) : Except Failure (Option Frame × List Char) :=
  match text with
  | [] => .error (.here .eofInValue [])
  | 'n' :: rest => (readWord "ull".toList rest).map (none, ·)
  | 't' :: rest => (readWord "rue".toList rest).map (none, ·)
  | 'f' :: rest => (readWord "alse".toList rest).map (none, ·)
  | '-' :: rest => (skipUnsigned rest).map (none, ·)
  | '"' :: rest => (skipString rest).map (none, ·)
  | '[' :: rest => .ok (some .list, rest)
  | '\x7b' :: rest => .ok (some .object, rest)
  | char :: rest =>
      if char.isDigit then
        (skipUnsigned (char :: rest)).map (none, ·)
      else
        .error (.next .expectedValue (char :: rest))

/--
Passes over a value inside the open brackets `frames`, the innermost first.
Every step takes at least one character, so a list as long as the text bounds
the steps.
-/
def skipWithin : (steps : List Char) → Turn → List Frame → List Char →
    Except Failure (List Char)
  | [], _, _, rest => .error (.here .eofInValue rest)
  | _ :: steps, .value, frames, text => do
      let (opened, rest) ← skipScalar (skipGaps text)
      match opened with
      | none => skipWithin steps .separator frames rest
      | some frame =>
          match skipGaps rest with
          | [] => throw (.here frame.eof [])
          | char :: later =>
              if char = frame.bracket then
                skipWithin steps .separator frames later
              else
                skipWithin steps .value (frame :: frames)
                  (← skipKey frame (char :: later))
  | _, .separator, [], rest => .ok rest
  | _ :: steps, .separator, frame :: frames, text => do
      match skipGaps text with
      | [] => throw (.here frame.eof [])
      | char :: rest =>
          if char = frame.bracket then
            skipWithin steps .separator frames rest
          else if char = ',' then
            skipWithin steps .value (frame :: frames) (← skipKey frame rest)
          else
            throw (.next frame.noComma (char :: rest))

/-- Passes over a value. -/
def skipValue (text : List Char) : Except Failure (List Char) :=
  skipWithin (' ' :: text) .value [] text

end WidgetTemplate.Json
