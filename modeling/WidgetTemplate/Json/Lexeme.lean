import WidgetTemplate.Decimal.Nearest
import WidgetTemplate.Json.Failure
import WidgetTemplate.Text.Hex

/-!
# The smallest parts of JSON text

Blanks, words, strings and numbers.  A string ends at its closing quote and
has no control characters; its escapes are read, and two escapes of a
surrogate pair are one character.  A number with a fraction, an exponent or
more digits than 64 bits hold is read as a number of double precision.
-/

namespace WidgetTemplate.Json

/-- Whether a character may stand between the parts of JSON text. -/
def isGap (char : Char) : Bool :=
  char == ' ' || char == '\n' || char == '\t' || char == '\r'

/-- What is left of a text after blanks. -/
def skipGaps (text : List Char) : List Char :=
  text.dropWhile isGap

/-- Reads the other letters of a word that is known by its first letter. -/
def readWord : List Char → List Char → Except Failure (List Char)
  | [], rest => .ok rest
  | _ :: _, [] => .error (.here .eofInValue [])
  | expected :: letters, char :: rest =>
      if char = expected then
        readWord letters rest
      else
        .error (.next .expectedWord (char :: rest))

/-- What four hexadecimal digits stand for. -/
def hexValue4? (a b c d : Char) : Option Nat :=
  Text.digitsValue? 16 [a, b, c, d]

/--
What is wrong with a text that should start with four hexadecimal digits: it
ends within four bytes, or one of these bytes is no digit.
-/
def badHexEscape (text : List Char) : Failure :=
  if Text.byteLength text < 4 then
    .here .eofInString []
  else
    { cause := .invalidEscape
      rest := text
      past := some 4 }

/-- Whether a number is the first of a surrogate pair. -/
def isLeading (unit : Nat) : Bool :=
  0xd800 ≤ unit && unit ≤ 0xdbff

/-- Whether a number is the second of a surrogate pair. -/
def isTrailing (unit : Nat) : Bool :=
  0xdc00 ≤ unit && unit ≤ 0xdfff

/-- The character of a surrogate pair. -/
def pairedChar (leading trailing : Nat) : Char :=
  Char.ofNat (0x10000 + (leading - 0xd800) * 0x400 + (trailing - 0xdc00))

/--
What is wrong with a text that should start with the escape of the second of
a surrogate pair.
-/
def unpaired : List Char → Failure
  | [] => .here .eofInString []
  | '\\' :: [] => .here .eofInString []
  | '\\' :: 'u' :: rest => badHexEscape rest
  | '\\' :: rest => .next .endOfHexEscape rest
  | rest => .next .endOfHexEscape rest

/-- The character an escape of one character stands for. -/
def simpleEscape? : Char → Option Char
  | '"' => some '"'
  | '\\' => some '\\'
  | '/' => some '/'
  | 'b' => some '\x08'
  | 'f' => some '\x0c'
  | 'n' => some '\n'
  | 'r' => some '\r'
  | 't' => some '\t'
  | _ => none

/--
Reads a string behind its opening quote.  The characters read so far are in
`done`, the latest first.
-/
def readString (done : List Char) : Reader String
  | [] => .error (.here .eofInString [])
  | '"' :: rest => .ok (String.ofList done.reverse, rest)
  | ['\\'] => .error (.here .eofInString [])
  | '\\' :: 'u' :: a :: b :: c :: d :: rest =>
      match hexValue4? a b c d with
      | none => .error (badHexEscape (a :: b :: c :: d :: rest))
      | some unit =>
          if isTrailing unit then
            .error (.here .loneSurrogate rest)
          else if isLeading unit then
            match rest with
            | '\\' :: 'u' :: e :: f :: g :: h :: later =>
                match hexValue4? e f g h with
                | none => .error (badHexEscape (e :: f :: g :: h :: later))
                | some second =>
                    if isTrailing second then
                      readString (pairedChar unit second :: done) later
                    else
                      .error (.here .loneSurrogate later)
            | other => .error (unpaired other)
          else
            readString (Char.ofNat unit :: done) rest
  | '\\' :: 'u' :: rest => .error (badHexEscape rest)
  | '\\' :: char :: rest =>
      match simpleEscape? char with
      | some meant => readString (meant :: done) rest
      | none => .error (.next .invalidEscape (char :: rest))
  | char :: rest =>
      if char.toNat < 0x20 then
        .error (.here .controlCharacter rest)
      else
        readString (char :: done) rest

/-- A number as it was read. -/
inductive Numeral where
  | integer (value : Int)
  | float (value : Float)

/-- The number as a value that was found. -/
def Numeral.found : Numeral → Found
  | .integer value => .integer value
  | .float value => .float value

/-- The greatest number that 64 bits hold. -/
def maxUnsigned : Nat := UInt64.size - 1

/--
Appends digits to a significand as long as 64 bits hold it, and returns the
digits that were not appended.
-/
def appendDigits (significand : Nat) : List Char → Nat × List Char
  | [] => (significand, [])
  | digit :: digits =>
      let longer := significand * 10 + (digit.toNat - '0'.toNat)
      if longer ≤ maxUnsigned then
        appendDigits longer digits
      else
        (significand, digit :: digits)

/-- A power of ten that double precision holds. -/
def powerOfTen (exponent : Nat) : Float :=
  (Decimal.mk 1 exponent).toFloat

/--
A significand times a power of ten, by one multiplication or by divisions
through powers of ten that double precision holds.  There is none if it is too
large.
-/
def scaled? (significand : Nat) (exponent : Int) : Option Float :=
  let value := (Decimal.mk significand 0).toFloat
  if significand = 0 then
    some 0.0
  else if 0 ≤ exponent then
    if exponent ≤ 308 then
      let product := value * powerOfTen exponent.toNat
      if product.isInf then none else some product
    else
      none
  else if -308 ≤ exponent then
    some (value / powerOfTen (-exponent).toNat)
  else if -616 ≤ exponent then
    some (value / powerOfTen 308 / powerOfTen (-exponent - 308).toNat)
  else
    some 0.0

/-- The number with its sign. -/
def signed (negative : Bool) (magnitude : Float) : Float :=
  if negative then -magnitude else magnitude

/-- The number of a significand and an exponent, whose text is read. -/
def finish
    (negative : Bool)
    (significand : Nat)
    (exponent : Int)
    (rest : List Char) :
    Except Failure (Numeral × List Char) :=
  match scaled? significand exponent with
  | some magnitude => .ok (.float (signed negative magnitude), rest)
  | none => .error (.here .numberOutOfRange rest)

/-- Splits a text behind its leading digits. -/
def spanDigits (text : List Char) : List Char × List Char :=
  (text.takeWhile Char.isDigit, text.dropWhile Char.isDigit)

/-- The greatest exponent that is taken as it is written. -/
def maxExponent : Nat := 2147483647

/--
The value of exponent digits, or the text behind the digit that makes it too
large.
-/
def readExponentDigits (value : Nat) :
    List Char → Except (List Char) (Nat × List Char)
  | [] => .ok (value, [])
  | char :: rest =>
      if char.isDigit then
        let longer := value * 10 + (char.toNat - '0'.toNat)
        if longer ≤ maxExponent then
          readExponentDigits longer rest
        else
          .error rest
      else
        .ok (value, char :: rest)

/-- Reads the rest of a number behind the letter of its exponent. -/
def readExponent
    (negative : Bool)
    (significand : Nat)
    (exponent : Int)
    (text : List Char) :
    Except Failure (Numeral × List Char) :=
  let (lowers, digits) :=
    match text with
    | '+' :: rest => (false, rest)
    | '-' :: rest => (true, rest)
    | rest => (false, rest)
  match digits with
  | [] => .error (.here .eofInValue [])
  | char :: _ =>
      if char.isDigit then
        match readExponentDigits 0 digits with
        | .ok (value, rest) =>
            finish negative significand
              (if lowers then exponent - value else exponent + value) rest
        | .error rest =>
            if significand ≠ 0 ∧ !lowers then
              .error (.here .numberOutOfRange rest)
            else
              .ok (.float (signed negative 0.0), (spanDigits rest).2)
      else
        .error (.next .invalidNumber digits)

/-- Reads the rest of a number that is not a plain integer behind its digits. -/
def readExponentOrEnd
    (negative : Bool)
    (significand : Nat)
    (exponent : Int) :
    Reader Numeral
  | 'e' :: rest => readExponent negative significand exponent rest
  | 'E' :: rest => readExponent negative significand exponent rest
  | rest => finish negative significand exponent rest

/-- Reads the rest of a number behind its point. -/
def readFraction
    (negative : Bool)
    (significand : Nat)
    (exponent : Int)
    (text : List Char) :
    Except Failure (Numeral × List Char) :=
  let (digits, rest) := spanDigits text
  if digits.isEmpty then
    .error (.next (if rest.isEmpty then .eofInValue else .invalidNumber) rest)
  else
    let (longer, others) := appendDigits significand digits
    readExponentOrEnd negative longer
      (exponent - (digits.length - others.length : Nat)) rest

/-- Reads the rest of a number behind its integral digits. -/
def readAfterDigits
    (negative : Bool)
    (digits rest : List Char) :
    Except Failure (Numeral × List Char) :=
  let (significand, others) := appendDigits 0 digits
  match rest with
  | '.' :: fraction => readFraction negative significand others.length fraction
  | _ =>
      let isFloat :=
        rest.head? == some 'e' || rest.head? == some 'E' || !others.isEmpty
      if isFloat then
        readExponentOrEnd negative significand others.length rest
      else if negative then
        if significand = 0 ∨ -(significand : Int) < Int64.minValue.toInt then
          .ok (.float (-(Decimal.mk significand 0).toFloat), rest)
        else
          .ok (.integer (-significand), rest)
      else
        .ok (.integer significand, rest)

/-- Reads a number behind its sign. -/
def readUnsigned (negative : Bool) : Reader Numeral
  | [] => .error (.here .eofInValue [])
  | '0' :: rest =>
      match rest with
      | char :: _ =>
          if char.isDigit then
            .error (.next .invalidNumber rest)
          else
            readAfterDigits negative ['0'] rest
      | [] => readAfterDigits negative ['0'] []
  | char :: rest =>
      if char.isDigit then
        let (digits, later) := spanDigits (char :: rest)
        readAfterDigits negative digits later
      else
        .error (.next .invalidNumber (char :: rest))

/-- Reads a number. -/
def readNumber : Reader Numeral
  | '-' :: rest => readUnsigned true rest
  | text => readUnsigned false text

end WidgetTemplate.Json
