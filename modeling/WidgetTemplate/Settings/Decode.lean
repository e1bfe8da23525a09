import WidgetTemplate.Settings.Error
import WidgetTemplate.Source.Format

/-!
# Settings with their types

Scalars convert freely: a number and a boolean are texts, a text may be a
number or a boolean, and a number is a boolean.  A group is a table, or a list
of its settings in order.  What else a table or a list holds is passed over.
-/

namespace WidgetTemplate

/-- How documents are read. -/
structure InputSettings where
  format : SourceFormat
  flattens : Bool
  deriving DecidableEq, Repr, Inhabited

/-- How widget trees are printed. -/
structure OutputSettings where
  format : String
  labelWidth : Nat
  deriving DecidableEq, Repr, Inhabited

/-- All settings. -/
structure Settings where
  input : InputSettings
  output : OutputSettings
  deriving DecidableEq, Repr, Inhabited

/-- Why a setting does not convert. -/
inductive DecodeFault where
  | misfit (found : Misfit) (expected : SettingType)
  | unknownFormat (name : String)
  | noFormat
  deriving DecidableEq, Repr, Inhabited

namespace DecodeFault

/-- The fault of a setting under a key, as an error. -/
def errorAt (key : String) (origin : Option String) : DecodeFault → SettingsError
  | .misfit found expected => .misfit found expected key origin
  | .unknownFormat name => .unknownFormat name
  | .noFormat => .noFormat

end DecodeFault

namespace Setting

/-- The text that a setting is. -/
def asString : Setting → Except DecodeFault String
  | .scalar _ (.string value) => .ok value
  | .scalar _ (.bool value) => .ok (toString value)
  | .scalar _ (.integer found) => .ok (toString found.value)
  | .scalar _ (.float value) => .ok (Decimal.plainText value)
  | .scalar _ .nothing => .error (.misfit .nothing .string)
  | .list _ _ => .error (.misfit .list .string)
  | .table _ _ => .error (.misfit .table .string)

/-- The boolean that a text in lower case says. -/
def boolWord? : String → Option Bool
  | "1" | "true" | "on" | "yes" => some true
  | "0" | "false" | "off" | "no" => some false
  | _ => none

/-- The boolean that a setting is. -/
def asBool : Setting → Except DecodeFault Bool
  | .scalar _ (.bool value) => .ok value
  | .scalar _ (.integer found) => .ok (found.value != 0)
  | .scalar _ (.float value) => .ok (value != 0)
  | .scalar _ (.string value) =>
      let lower := Text.lowercase value
      match boolWord? lower with
      | some value => .ok value
      | none => .error (.misfit (.string lower) .bool)
  | .scalar _ .nothing => .error (.misfit .nothing .bool)
  | .list _ _ => .error (.misfit .list .bool)
  | .table _ _ => .error (.misfit .table .bool)

/-- The greatest count, which 64 bits hold. -/
def maxCount : Nat := UInt64.size - 1

/-- The count that digits say, if 64 bits hold it. -/
def countOfDigits? (digits : List Char) : Option Nat :=
  (Text.digitsValue? 10 digits).filter (· ≤ maxCount)

/-- The count that a text says. -/
def countWord? (text : String) : Option Nat :=
  match Text.lowercase text with
  | "true" | "on" | "yes" => some 1
  | "false" | "off" | "no" => some 0
  | _ =>
      match text.toList with
      | '+' :: digits => countOfDigits? digits
      | digits => countOfDigits? digits

/-- The count nearest to a number, away from zero if two are, within 64 bits. -/
def nearestCount (value : Float) : Nat :=
  value.round.toUInt64.toNat

/-- The count that a setting is. -/
def asCount : Setting → Except DecodeFault Nat
  | .scalar _ (.bool value) => .ok value.toNat
  | .scalar _ (.integer found) =>
      if 0 ≤ found.value ∧ found.value ≤ maxCount then
        .ok found.value.toNat
      else
        .error (.misfit (.integer found) .count)
  | .scalar _ (.float value) => .ok (nearestCount value)
  | .scalar _ (.string value) =>
      match countWord? value with
      | some count => .ok count
      | none => .error (.misfit (.string value) .integer)
  | .scalar _ .nothing => .error (.misfit .nothing .integer)
  | .list _ _ => .error (.misfit .list .integer)
  | .table _ _ => .error (.misfit .table .integer)

/-- The format that a name in letters of either case means. -/
def formatNamed (name : String) : Except DecodeFault SourceFormat :=
  match Text.lowercase name with
  | "auto" => .ok .auto
  | "json" => .ok .json
  | "yaml" => .ok .yaml
  | _ => .error (.unknownFormat name)

/-- The format that a setting is: a name, alone or as the only entry of a table. -/
def asFormat : Setting → Except DecodeFault SourceFormat
  | .scalar _ (.string name) => formatNamed name
  | .table _ [(name, _)] => formatNamed name
  | _ => .error .noFormat

end Setting

/-- A conversion of settings to a type. -/
abbrev Decoder (α : Type) := Setting → Except DecodeFault α

namespace Settings

/-- Converts a setting that stands under a key. -/
def decodeAt {α : Type} (key : String) (decode : Decoder α) (setting : Setting) :
    Except SettingsError α :=
  (decode setting).mapError (·.errorAt key setting.origin)

/-- Converts an entry of a group, if it is there. -/
def decodeEntry
    {α : Type}
    (group : SettingsGroup)
    (name : String)
    (decode : Decoder α)
    (setting : Setting) :
    Except SettingsError (Option α) :=
  (setting.entry? name).mapM (decodeAt (group.name ++ "." ++ name) decode)

/-- The value of an entry that has to be there. -/
def demand {α : Type} (name : String) (value : Option α) :
    Except SettingsError α :=
  match value with
  | some value => .ok value
  | none => .error (.missing name)

/-- Converts a group of two settings. -/
def decodeGroup
    {α β : Type}
    (group : SettingsGroup)
    (firstName : String)
    (first : Decoder α)
    (secondName : String)
    (second : Decoder β)
    (setting : Setting) :
    Except SettingsError (α × β) :=
  match setting with
  | .scalar _ value => .error (.notGroup group value)
  | .list _ [] => .error (.tooShort group 0)
  | .list _ [only] => do
      let _ ← decodeAt (group.name ++ "[0]") first only
      throw (.tooShort group 1)
  | .list _ (one :: other :: _) => do
      let one ← decodeAt (group.name ++ "[0]") first one
      let other ← decodeAt (group.name ++ "[1]") second other
      return (one, other)
  | .table _ _ => do
      let one ← decodeEntry group firstName first setting
      let other ← decodeEntry group secondName second setting
      return (← demand firstName one, ← demand secondName other)

/-- Converts the settings of a group of the whole. -/
def group (root : Setting) (group : SettingsGroup) :
    Except SettingsError Setting :=
  demand group.name (root.entry? group.name)

/-- Converts all settings. -/
def decode (root : Setting) : Except SettingsError Settings := do
  let (inputFormat, flattens) ←
    decodeGroup .input "format" Setting.asFormat "flatten" Setting.asBool
      (← group root .input)
  let (outputFormat, labelWidth) ←
    decodeGroup .output "format" Setting.asString "label_width" Setting.asCount
      (← group root .output)
  return ⟨⟨inputFormat, flattens⟩, ⟨outputFormat, labelWidth⟩⟩

end Settings

end WidgetTemplate
