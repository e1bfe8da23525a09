import WidgetTemplate.Toml.Value

/-!
# Tables of TOML while they are read

A table comes about by its header, by the header of a table inside it, or by a
key with dots.  How it came about decides what may still be added to it: a
header may follow once if the table is there only because of a table inside
it, and keys with dots only go through tables that have no header.
-/

namespace WidgetTemplate.Toml

/-- How a table came about. -/
inductive TableKind where
  /-- By its own header or in brackets. -/
  | declared
  /-- By the header of a table inside it. -/
  | implied
  /-- By keys with dots. -/
  | dotted
  deriving DecidableEq, Repr, Inhabited

/-- What stands under a key. -/
inductive Item where
  | leaf (value : Value)
  | table (kind : TableKind) (entries : List (String × Item))
  /-- Tables that are listed one by one. -/
  | tables (tables : List (List (String × Item)))
  deriving Inhabited

/-- The entries of a table. -/
abbrev Entries := List (String × Item)

namespace Entries

/-- The entries with another item under a key, in its place or at the end. -/
def put (key : String) (item : Item) : Entries → Entries
  | [] => [(key, item)]
  | (other, held) :: rest =>
      if other = key then
        (key, item) :: rest
      else
        (other, held) :: put key item rest

/--
Changes the table under a path of keys, going into the last of several tables,
and making tables that are missing.
-/
def changeAt
    (isDotted : Bool)
    (change : TableKind → Entries → Option Entries)
    (kind : TableKind)
    (entries : Entries) :
    List String → Option Entries
  | [] => change kind entries
  | key :: path =>
      match entries.lookup key with
      | none => do
          let made := if isDotted then TableKind.dotted else .implied
          let inner ← changeAt isDotted change made [] path
          return put key (.table made inner) entries
      | some (.table held inner) =>
          if isDotted && held = .declared then
            none
          else do
            let inner ← changeAt isDotted change held inner path
            return put key (.table held inner) entries
      | some (.tables tables) => do
          let inner ← changeAt isDotted change .declared (tables.getLastD []) path
          return put key (.tables (tables.dropLast ++ [inner])) entries
      | some (.leaf _) => none

/-- Adds an item under a key with dots, where nothing stands yet. -/
def add (path : List String) (key : String) (item : Item) (entries : Entries) :
    Option Entries :=
  let change (kind : TableKind) (held : Entries) : Option Entries :=
    let isMixed := (kind == .dotted) == path.isEmpty
    if isMixed || (held.lookup key).isSome then none else some (put key item held)
  changeAt true change .declared entries path

/-- Adds the table of a header, whose own entries are added by `fill`. -/
def addTable
    (path : List String)
    (key : String)
    (fill : Entries → Option Entries)
    (entries : Entries) :
    Option Entries :=
  let change (_ : TableKind) (held : Entries) : Option Entries :=
    match held.lookup key with
    | none => (fill []).map fun inner => put key (.table .declared inner) held
    | some (.table .implied inner) =>
        (fill inner).map fun inner => put key (.table .declared inner) held
    | _ => none
  changeAt false change .declared entries path

/-- Adds one of several tables of a header. -/
def addListed
    (path : List String)
    (key : String)
    (fill : Entries → Option Entries)
    (entries : Entries) :
    Option Entries :=
  let change (_ : TableKind) (held : Entries) : Option Entries :=
    match held.lookup key with
    | none => (fill []).map fun inner => put key (.tables [inner]) held
    | some (.tables tables) =>
        (fill []).map fun inner => put key (.tables (tables ++ [inner])) held
    | _ => none
  changeAt false change .declared entries path

end Entries

mutual

/-- The value of an item. -/
def Item.value : Item → Value
  | .leaf value => value
  | .table _ entries => .table (valuesOf entries)
  | .tables tables => .array (tableValues tables)

/-- The values of entries. -/
def valuesOf : List (String × Item) → List (String × Value)
  | [] => []
  | (key, item) :: rest => (key, item.value) :: valuesOf rest

/-- The values of several tables. -/
def tableValues : List (List (String × Item)) → List Value
  | [] => []
  | entries :: rest => .table (valuesOf entries) :: tableValues rest

end

end WidgetTemplate.Toml
