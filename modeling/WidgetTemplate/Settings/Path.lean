import WidgetTemplate.Settings.Setting
import WidgetTemplate.Text.Hex

/-!
# Paths to settings

A path is a name, and behind it names after dots and positions in square
brackets.  A negative position counts from the end of a list.  Assigning to a
path makes the tables and lists on the way to it.
-/

namespace WidgetTemplate

/-- A step into a setting. -/
inductive SettingStep where
  | entry (name : String)
  | item (position : Int)
  deriving DecidableEq, Repr, Inhabited

/-- A path, which starts with the name of an entry. -/
structure SettingPath where
  first : String
  steps : List SettingStep
  deriving DecidableEq, Repr, Inhabited

/-- Why a text is no path. -/
inductive PathFault where
  | noName
  | noDigit
  | noMark
  /-- A position has more than 64 bits. -/
  | positionTooLarge
  deriving DecidableEq, Repr, Inhabited

/-- The report of a fault. -/
def PathFault.message : PathFault → String
  | .noName => "IsA"
  | .noDigit => "Digit"
  | .noMark => "Char"
  | .positionTooLarge => "Map on Result"

namespace SettingPath

/-- Whether a name may have a character. -/
def isNameChar (char : Char) : Bool :=
  char.isAlphanum || char == ' ' || char == '_' || char == '-'

/-- Reads a name. -/
def readName (text : List Char) : Except PathFault (String × List Char) :=
  let name := text.takeWhile isNameChar
  if name.isEmpty then
    .error .noName
  else
    .ok (String.ofList name, text.dropWhile isNameChar)

/-- What is left of a text after blanks. -/
def skipBlanks (text : List Char) : List Char :=
  text.dropWhile fun char => char == ' ' || char == '\t'

/-- Reads a position and the closing bracket behind it. -/
def readPosition (text : List Char) : Except PathFault (Int × List Char) :=
  let text := skipBlanks text
  let isNegative := text.head? == some '-'
  let text := if isNegative then text.drop 1 else text
  match Text.digitsValue? 10 (text.takeWhile Char.isDigit) with
  | none => .error .noDigit
  | some magnitude =>
      let position : Int := if isNegative then -magnitude else magnitude
      if position < Int64.minValue.toInt ∨ Int64.maxValue.toInt < position then
        .error .positionTooLarge
      else
        match skipBlanks (text.dropWhile Char.isDigit) with
        | ']' :: rest => .ok (position, rest)
        | _ => .error .noMark

/-- Reads one step; a dot without a name is reported like any other character. -/
def readStep : List Char → Except PathFault (SettingStep × List Char)
  | '.' :: rest =>
      match readName rest with
      | .ok (name, rest) => .ok (.entry name, rest)
      | .error _ => .error .noMark
  | '[' :: rest => (readPosition rest).map fun (position, rest) =>
      (.item position, rest)
  | _ => .error .noMark

/--
Reads steps to the end of a text.  Every step takes a character, so a list
longer than the text bounds them.
-/
def readSteps : (bound text : List Char) → Except PathFault (List SettingStep)
  | _, [] => .ok []
  | [], _ :: _ => .error .noMark
  | _ :: bound, text => do
      let (step, rest) ← readStep text
      return step :: (← readSteps bound rest)

/-- The path that a text is. -/
def ofText (text : String) : Except PathFault SettingPath := do
  let (first, rest) ← readName text.toList
  return ⟨first, ← readSteps (' ' :: rest) rest⟩

end SettingPath

namespace Setting

/-- The place of a position in a list of some length. -/
def placeOf (position : Int) (length : Nat) : Nat :=
  if 0 ≤ position then position.toNat else length - position.natAbs

/--
Assigns a setting to the end of a number of steps.  Into a table it is merged,
and in a list it takes the place of what was there.
-/
def assignSteps (setting : Setting) (target : Setting) : List SettingStep → Setting
  | [] => setting
  | [.entry name] => target.layEntries [(name, setting)]
  | .entry name :: rest =>
      let lower := Text.lowercase name
      let held := (target.entry? lower).getD unset
      target.put lower (assignSteps setting held rest)
  | .item position :: rest =>
      let place := placeOf position target.items.length
      let held := target.items.getD place unset
      target.putItem place (assignSteps setting held rest)

/-- Assigns a setting to a path. -/
def assign (target : Setting) (path : SettingPath) (setting : Setting) : Setting :=
  assignSteps setting target (.entry path.first :: path.steps)

end Setting

end WidgetTemplate
