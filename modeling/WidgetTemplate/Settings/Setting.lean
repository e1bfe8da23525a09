import WidgetTemplate.Text.Lowercase

/-!
# Raw settings

A raw setting is a scalar, a list or a table, and remembers the file it was
read from.  Tables are merged entry by entry, and the names of their entries
are kept in lower case.  A table that is made to hold something has no file.
-/

namespace WidgetTemplate

/-- The types that integers are held in. -/
inductive IntegerType where
  | int64
  | uint64
  | int128
  | uint128
  deriving DecidableEq, Repr, Inhabited

namespace IntegerType

/-- The least integer of a type. -/
def least : IntegerType → Int
  | .int64 => -0x8000000000000000
  | .uint64 => 0
  | .int128 => -0x80000000000000000000000000000000
  | .uint128 => 0

/-- The greatest integer of a type. -/
def greatest : IntegerType → Int
  | .int64 => 0x7fffffffffffffff
  | .uint64 => 0xffffffffffffffff
  | .int128 => 0x7fffffffffffffffffffffffffffffff
  | .uint128 => 0xffffffffffffffffffffffffffffffff

end IntegerType

/-- An integer in the bounds of its type. -/
structure TypedInteger where
  type : IntegerType
  value : Int
  least_le : type.least ≤ value
  le_greatest : value ≤ type.greatest
  deriving DecidableEq, Repr

namespace TypedInteger

/-- A signed integer of 64 bits. -/
def ofInt64 (value : Int64) : TypedInteger where
  type := .int64
  value := value.toInt
  least_le := value.le_toInt
  le_greatest := Int.le_sub_one_of_lt value.toInt_lt

end TypedInteger

/-- A setting that has no parts. -/
inductive SettingValue where
  | nothing
  | bool (value : Bool)
  | integer (value : TypedInteger)
  | float (value : Float)
  | string (value : String)
  deriving Inhabited

/-- A raw setting. -/
inductive Setting where
  | scalar (origin : Option String) (value : SettingValue)
  | list (origin : Option String) (items : List Setting)
  | table (origin : Option String) (entries : List (String × Setting))
  deriving Inhabited

namespace Setting

/-- The file a setting was read from. -/
def origin : Setting → Option String
  | .scalar origin _ => origin
  | .list origin _ => origin
  | .table origin _ => origin

/-- A setting that is given by itself comes from no file; its parts keep theirs. -/
def given : Setting → Setting
  | .scalar _ value => .scalar none value
  | .list _ items => .list none items
  | .table _ entries => .table none entries

/-- A setting that nothing is known of. -/
def unset : Setting :=
  .scalar none .nothing

/-- A table without entries. -/
def emptyTable : Setting :=
  .table none []

/-- The entries of a table; anything else has none. -/
def entries : Setting → List (String × Setting)
  | .table _ entries => entries
  | _ => []

/-- The items of a list; anything else has none. -/
def items : Setting → List Setting
  | .list _ items => items
  | _ => []

/-- The entry of a table. -/
def entry? (setting : Setting) (name : String) : Option Setting :=
  setting.entries.lookup name

/-- The setting under names, one inside the other. -/
def find? (setting : Setting) : List String → Option Setting
  | [] => some setting
  | name :: names => (setting.entry? name).bind (·.find? names)

/-- Entries with another setting under a name, in its place or at the end. -/
def putEntry (name : String) (setting : Setting) :
    List (String × Setting) → List (String × Setting)
  | [] => [(name, setting)]
  | (other, held) :: rest =>
      if other = name then
        (name, setting) :: rest
      else
        (other, held) :: putEntry name setting rest

/-- The table with another entry; anything but a table gives way to one. -/
def put (setting : Setting) (name : String) (entry : Setting) : Setting :=
  let origin := match setting with
    | .table origin _ => origin
    | _ => none
  .table origin (putEntry name entry setting.entries)

/-- The list with another item; anything but a list gives way to one. -/
def putItem (setting : Setting) (position : Nat) (item : Setting) : Setting :=
  let origin := match setting with
    | .list origin _ => origin
    | _ => none
  let items := setting.items
  let padded := items ++ List.replicate (position + 1 - items.length) unset
  .list origin (padded.set position item)

mutual

/-- A setting on top of what was set before: only tables are merged. -/
def layOver (held : Option Setting) : Setting → Setting
  | .scalar origin value => .scalar origin value
  | .list origin items => .list origin items
  | .table _ entries => layEntries (held.getD emptyTable) entries

/-- Entries on top of what was set before. -/
def layEntries (held : Setting) : List (String × Setting) → Setting
  | [] => held
  | (name, setting) :: rest =>
      let lower := Text.lowercase name
      layEntries (held.put lower (layOver (held.entry? lower) setting)) rest

end

end Setting

end WidgetTemplate
