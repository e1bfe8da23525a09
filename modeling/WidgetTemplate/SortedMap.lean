/-!
# Finite maps from strings, in ascending order of their keys

A map is the list of its entries, strictly ascending by key in the order of
code points.  Two maps with the same entries are therefore equal, whatever
order the entries arrived in, and listing the keys needs no sorting.
-/

namespace WidgetTemplate

universe u

/-- A finite map from strings. -/
structure SortedMap (α : Type u) where
  /-- The entries, smallest key first. -/
  entries : List (String × α)
  ascending : entries.Pairwise fun left right => left.1 < right.1

namespace SortedMap

variable {α : Type u}

@[ext]
theorem ext {left right : SortedMap α}
    (same : left.entries = right.entries) :
    left = right := by
  cases left
  cases right
  cases same
  rfl

instance [DecidableEq α] : DecidableEq (SortedMap α) :=
  fun left right =>
    decidable_of_iff (left.entries = right.entries)
      ⟨SortedMap.ext, fun same => same ▸ rfl⟩

/-- The map without entries. -/
def empty : SortedMap α where
  entries := []
  ascending := .nil

instance : Inhabited (SortedMap α) :=
  ⟨empty⟩

/-- The entries with `key` set to `value`, put where the key belongs. -/
def insertEntry (key : String) (value : α) :
    List (String × α) → List (String × α)
  | [] => [(key, value)]
  | (other, held) :: rest =>
      if key < other then
        (key, value) :: (other, held) :: rest
      else if key = other then
        (key, value) :: rest
      else
        (other, held) :: insertEntry key value rest

theorem mem_insertEntry {key : String} {value : α} {entry : String × α} :
    {entries : List (String × α)} →
      entry ∈ insertEntry key value entries →
        entry = (key, value) ∨ entry ∈ entries
  | [], member => by simpa [insertEntry] using member
  | (other, held) :: rest, member => by
      unfold insertEntry at member
      split at member
      · simpa using member
      · split at member
        · rcases List.mem_cons.1 member with here | later
          · exact .inl here
          · exact .inr (List.mem_cons_of_mem _ later)
        · rcases List.mem_cons.1 member with here | later
          · exact .inr (here ▸ List.mem_cons_self)
          · rcases mem_insertEntry later with here | there
            · exact .inl here
            · exact .inr (List.mem_cons_of_mem _ there)

theorem ascending_insertEntry (key : String) (value : α) :
    {entries : List (String × α)} →
      entries.Pairwise (fun left right => left.1 < right.1) →
        (insertEntry key value entries).Pairwise fun left right => left.1 < right.1
  | [], _ => by simp [insertEntry]
  | (other, held) :: rest, ascending => by
      have ⟨first, later⟩ := List.pairwise_cons.1 ascending
      unfold insertEntry
      split
      · rename_i smaller
        refine List.pairwise_cons.2 ⟨fun entry member => ?_, ascending⟩
        rcases List.mem_cons.1 member with here | there
        · exact here ▸ smaller
        · exact String.lt_trans smaller (first entry there)
      · split
        · rename_i same
          exact List.pairwise_cons.2
            ⟨fun entry member => same ▸ first entry member, later⟩
        · rename_i notSmaller different
          refine List.pairwise_cons.2
            ⟨fun entry member => ?_, ascending_insertEntry key value later⟩
          rcases mem_insertEntry member with here | there
          · subst here
            exact Std.lt_of_le_of_ne (String.not_lt.1 notSmaller)
              (Ne.symm different)
          · exact first entry there

/-- The map with `key` set to `value`; an older value of the key is dropped. -/
def insert (map : SortedMap α) (key : String) (value : α) : SortedMap α where
  entries := insertEntry key value map.entries
  ascending := ascending_insertEntry key value map.ascending

/-- The map a list of settings leaves when they are made one after another. -/
def ofList (settings : List (String × α)) : SortedMap α :=
  settings.foldl (fun map (key, value) => map.insert key value) empty

/-- The value of a key. -/
def find? (map : SortedMap α) (key : String) : Option α :=
  map.entries.lookup key

/-- Whether the key has a value. -/
def contains (map : SortedMap α) (key : String) : Bool :=
  (map.find? key).isSome

/-- The keys that have a value, in ascending order. -/
def keys (map : SortedMap α) : List String :=
  map.entries.map (·.1)

theorem lookup_cons (wanted key : String) (value : α) (rest : List (String × α)) :
    ((key, value) :: rest).lookup wanted =
      if wanted = key then some value else rest.lookup wanted := by
  by_cases same : wanted = key
  · simp [same]
  · simp [List.lookup_cons, same, beq_false_of_ne same]

theorem lookup_insertEntry (key wanted : String) (value : α) :
    (entries : List (String × α)) →
      (insertEntry key value entries).lookup wanted =
        if wanted = key then some value else entries.lookup wanted
  | [] => by
      simp [insertEntry, lookup_cons]
  | (other, held) :: rest => by
      have later := lookup_insertEntry key wanted value rest
      unfold insertEntry
      split
      · simp only [lookup_cons]
      · split
        · rename_i same
          subst same
          simp only [lookup_cons]
          split <;> rfl
        · rename_i different
          simp only [lookup_cons, later]
          by_cases hit : wanted = other
          · subst hit
            simp [Ne.symm different]
          · simp [hit]

/-- A key has the value it was last set to. -/
@[simp]
theorem find?_insert (map : SortedMap α) (key wanted : String) (value : α) :
    (map.insert key value).find? wanted =
      if wanted = key then some value else map.find? wanted :=
  lookup_insertEntry key wanted value map.entries

@[simp]
theorem find?_empty (wanted : String) :
    (empty : SortedMap α).find? wanted = none :=
  rfl

end SortedMap

end WidgetTemplate
