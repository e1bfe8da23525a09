import WidgetTemplate.Text.Hex

/-!
# Dates and times

A moment is a date, a time of day, or a date and a time with or without the
distance from universal time.  The fraction of a second keeps nine digits and
no zeros at its end.
-/

namespace WidgetTemplate.Toml.Moment

/-- A number of exactly so many digits that is in a range. -/
def number? (count low high : Nat) (text : List Char) : Option (List Char) :=
  let digits := text.take count
  match Text.digitsValue? 10 digits with
  | some value =>
      if digits.length = count ∧ low ≤ value ∧ value ≤ high then
        some (text.drop count)
      else
        none
  | none => none

/-- What is left of a text after a character. -/
def skip? (expected : Char) : List Char → Option (List Char)
  | char :: rest => if char = expected then some rest else none
  | [] => none

/-- Whether a year has a leap day. -/
def isLeap (year : Nat) : Bool :=
  year % 4 == 0 && (year % 100 != 0 || year % 400 == 0)

/-- The number of days of a month. -/
def daysIn (year month : Nat) : Nat :=
  if month = 2 then
    if isLeap year then 29 else 28
  else if month = 4 ∨ month = 6 ∨ month = 9 ∨ month = 11 then
    30
  else
    31

/-- The value of digits. -/
def valueOf (digits : List Char) : Nat :=
  (Text.digitsValue? 10 digits).getD 0

/-- What is left of a text after a date. -/
def skipDate? (text : List Char) : Option (List Char) := do
  let rest ← skip? '-' (← number? 4 0 9999 text)
  let year := valueOf (text.take 4)
  let month := valueOf (rest.take 2)
  let rest ← skip? '-' (← number? 2 1 12 rest)
  number? 2 1 (daysIn year month) rest

/-- The date at the start of a text, and what is left. -/
def date? (text : List Char) : Option (List Char × List Char) :=
  (skipDate? text).map fun rest => (text.take 10, rest)

/-- How many digits of a fraction of a second are kept. -/
def maxFraction : Nat := 9

/-- A fraction of a second without the digits and zeros that do not count. -/
def shortFraction (digits : List Char) : List Char :=
  let kept := ((digits.take maxFraction).reverse.dropWhile (· == '0')).reverse
  if kept.isEmpty then [] else '.' :: kept

/-- The time of day at the start of a text, and what is left. -/
def time? (text : List Char) : Option (List Char × List Char) := do
  let rest ← skip? ':' (← number? 2 0 23 text)
  let rest ← skip? ':' (← number? 2 0 59 rest)
  let rest ← number? 2 0 60 rest
  match rest with
  | '.' :: later =>
      let digits := later.takeWhile Char.isDigit
      if digits.isEmpty then
        none
      else
        return (text.take 8 ++ shortFraction digits, later.dropWhile Char.isDigit)
  | _ => return (text.take 8, rest)

/-- The distance from universal time at the start of a text, and what is left. -/
def offset? : List Char → Option (List Char × List Char)
  | 'Z' :: rest => some (['Z'], rest)
  | 'z' :: rest => some (['Z'], rest)
  | sign :: rest =>
      if sign = '+' ∨ sign = '-' then do
        let later ← skip? ':' (← number? 2 0 23 rest)
        let later ← number? 2 0 59 later
        let distance := rest.take 5
        let isZero := distance == "00:00".toList
        return ((if isZero then '+' else sign) :: distance, later)
      else
        none
  | [] => none

/-- The time that follows a date, with a distance or without. -/
def timeOfDate? (text : List Char) : Option (List Char × List Char) := do
  let (time, rest) ← time? text
  match offset? rest with
  | some (offset, rest) => return ('T' :: time ++ offset, rest)
  | none => return ('T' :: time, rest)

/-- Whether a character may stand between a date and a time. -/
def isDelimiter (char : Char) : Bool :=
  char == 'T' || char == 't' || char == ' '

/-- Reads a moment at the start of a text. -/
def read (text : List Char) : Option (String × List Char) :=
  match date? text with
  | some (date, rest) =>
      match rest with
      | delimiter :: later =>
          match if isDelimiter delimiter then timeOfDate? later else none with
          | some (time, later) => some (String.ofList (date ++ time), later)
          | none => some (String.ofList date, rest)
      | [] => some (String.ofList date, [])
  | none => (time? text).map fun (time, rest) => (String.ofList time, rest)

end WidgetTemplate.Toml.Moment
