import WidgetTemplate.Decimal.Text
import WidgetTemplate.Node.Schema
import WidgetTemplate.Settings.Path
import WidgetTemplate.Text.Quoted

/-!
# Why settings are not read
-/

namespace WidgetTemplate

/-- The two groups of settings. -/
inductive SettingsGroup where
  | input
  | output
  deriving DecidableEq, Repr, Inhabited

namespace SettingsGroup

/-- The name of a group. -/
def name : SettingsGroup → String
  | .input => "input"
  | .output => "output"

/-- How reports name the type of a group. -/
def typeName : SettingsGroup → String
  | .input => "struct InputConfig"
  | .output => "struct OutputConfig"

end SettingsGroup

/-- How reports name a type of integers. -/
def IntegerType.describe : IntegerType → String
  | .int64 => "64-bit integer"
  | .uint64 => "64-bit unsigned integer"
  | .int128 => "128-bit integer"
  | .uint128 => "128-bit unsigned integer"

/-- A setting that does not convert to the type that is needed. -/
inductive Misfit where
  | nothing
  | integer (value : TypedInteger)
  | string (value : String)
  | list
  | table
  deriving DecidableEq, Repr, Inhabited

/-- How reports name a setting that does not convert. -/
def Misfit.describe : Misfit → String
  | .nothing => "unit value"
  | .integer found => found.type.describe ++ " `" ++ toString found.value ++ "`"
  | .string value => "string " ++ Text.quoted value
  | .list => "sequence"
  | .table => "map"

/-- The types that settings convert to. -/
inductive SettingType where
  | string
  | bool
  | integer
  /-- An integer that is not negative. -/
  | count
  deriving DecidableEq, Repr, Inhabited

/-- How reports name a type. -/
def SettingType.describe : SettingType → String
  | .string => "a string"
  | .bool => "a boolean"
  | .integer => "an integer"
  | .count => "an unsigned 64 bit or less integer"

/-- What reports add to an integer where a group is needed: a type of 128 bits. -/
def IntegerType.mention : IntegerType → String
  | .int64 => ""
  | .uint64 => ""
  | .int128 => " as i128"
  | .uint128 => " as u128"

/-- How reports name a scalar where a group is needed. -/
def SettingValue.describe : SettingValue → String
  | .nothing => "unit value"
  | .bool value => "boolean `" ++ toString value ++ "`"
  | .integer found =>
      "integer `" ++ toString found.value ++ "`" ++ found.type.mention
  | .float value => "floating point `" ++ Decimal.pointedText value ++ "`"
  | .string value => "string " ++ Text.quoted value

/-- Why settings are not read. -/
inductive SettingsError where
  /-- The key of an override is no path. -/
  | path (fault : PathFault)
  /-- A file is not TOML. -/
  | malformed
  /-- A file is not read. -/
  | file (report : String)
  /-- A setting does not convert, at a key and from a file. -/
  | misfit (found : Misfit) (expected : SettingType) (key : String)
      (origin : Option String)
  /-- A scalar stands where a group is needed. -/
  | notGroup (group : SettingsGroup) (found : SettingValue)
  /-- A list that stands for a group is too short. -/
  | tooShort (group : SettingsGroup) (length : Nat)
  | missing (name : String)
  | unknownFormat (name : String)
  /-- A setting has no name of a format. -/
  | noFormat
  deriving Inhabited

namespace SettingsError

/-- How reports name the type of input formats. -/
def formatType : String := "enum InputFormat"

/-- The report of an error; a file that is not TOML has none. -/
def message? : SettingsError → Option String
  | .path fault => some fault.message
  | .malformed => none
  | .file report => some report
  | .misfit found expected key origin =>
      let place :=
        match origin with
        | some name => " in " ++ name
        | none => ""
      some (Schema.invalidType found.describe expected.describe ++
        " for key `" ++ key ++ "`" ++ place)
  | .notGroup group found =>
      some (Schema.invalidType found.describe group.typeName)
  | .tooShort group length =>
      some
        ("invalid length " ++ toString length ++ ", expected " ++
          group.typeName ++ " with 2 elements")
  | .missing name => some ("missing field `" ++ name ++ "`")
  | .unknownFormat name =>
      some (formatType ++ " does not have variant constructor " ++ name)
  | .noFormat =>
      some ("value of " ++ formatType ++
        " should be represented by either string or table with exactly one key")

end SettingsError

end WidgetTemplate
