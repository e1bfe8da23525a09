import WidgetTemplate.Toml.Document

/-!
# No key of a document is there twice

A document that gives a key a second value is rejected, in a section, behind
dots and in brackets alike.  So of the entries that are read no two have one
key, at any depth, and it makes no difference whether the first or the last
entry of a key is looked up.
-/

namespace WidgetTemplate.Toml

/-! ## Values and items without repeated keys -/

/-- A value that has no table in it with a key twice. -/
inductive Value.Distinct : Value → Prop where
  | string (text : String) : Distinct (.string text)
  | integer (value : Int64) : Distinct (.integer value)
  | float (value : Float) : Distinct (.float value)
  | bool (value : Bool) : Distinct (.bool value)
  | moment (text : String) : Distinct (.moment text)
  | array {items : List Value} (each : ∀ item ∈ items, item.Distinct) :
      Distinct (.array items)
  | table {entries : List (String × Value)} (keys : (entries.map (·.1)).Nodup)
      (each : ∀ entry ∈ entries, entry.2.Distinct) :
      Distinct (.table entries)

/-- An item that has no table in it with a key twice. -/
inductive Item.Distinct : Item → Prop where
  | leaf {value : Value} (whole : value.Distinct) : Distinct (.leaf value)
  | table {kind : TableKind} {entries : List (String × Item)}
      (keys : (entries.map (·.1)).Nodup)
      (each : ∀ entry ∈ entries, entry.2.Distinct) :
      Distinct (.table kind entries)
  | tables {tables : List (List (String × Item))}
      (keys : ∀ entries ∈ tables, (entries.map (·.1)).Nodup)
      (each : ∀ entries ∈ tables, ∀ entry ∈ entries, entry.2.Distinct) :
      Distinct (.tables tables)

namespace Entries

/-- Entries without a key that is there twice, and without one in their items. -/
structure Distinct (entries : Entries) : Prop where
  keys : (entries.map (·.1)).Nodup
  each : ∀ entry ∈ entries, entry.2.Distinct

theorem Distinct.empty : Distinct [] :=
  ⟨List.nodup_nil, by simp⟩

theorem Distinct.lookup {entries : Entries}
    (distinct : entries.Distinct) {key : String} {item : Item}
    (found : entries.lookup key = some item) : item.Distinct := by
  rcases List.lookup_eq_some_iff.mp found with ⟨before, later, rfl, -⟩
  exact distinct.each (key, item) (by simp)

theorem keys_put (key : String) (item : Item) (entries : Entries) :
    (put key item entries).map (·.1) =
      if key ∈ entries.map (·.1) then entries.map (·.1)
      else entries.map (·.1) ++ [key] := by
  induction entries with
  | nil => rfl
  | cons entry rest induction =>
      rcases entry with ⟨other, held⟩
      unfold put
      by_cases same : other = key
      · simp [same]
      · rw [if_neg same, List.map_cons, induction]
        simp only [List.map_cons, List.mem_cons, Ne.symm same, false_or]
        split <;> rfl

theorem mem_put {key : String} {item : Item} {entries : Entries}
    {entry : String × Item} (member : entry ∈ put key item entries) :
    entry = (key, item) ∨ entry ∈ entries := by
  induction entries with
  | nil => exact .inl (List.mem_singleton.mp member)
  | cons first rest induction =>
      rcases first with ⟨other, held⟩
      unfold put at member
      split at member
      · rcases List.mem_cons.mp member with here | later
        · exact .inl here
        · exact .inr (List.mem_cons_of_mem _ later)
      · rcases List.mem_cons.mp member with here | later
        · exact .inr (here ▸ List.mem_cons_self)
        · exact (induction later).imp id (List.mem_cons_of_mem _)

theorem Distinct.put {entries : Entries}
    (distinct : entries.Distinct) (key : String) {item : Item}
    (whole : item.Distinct) : (put key item entries).Distinct := by
  constructor
  · rw [keys_put]
    split
    · exact distinct.keys
    · rename_i absent
      exact List.nodup_append.mpr
        ⟨distinct.keys, by simp, fun held member _ single => by
          rw [List.mem_singleton.mp single]
          exact fun same => absent (same ▸ member)⟩
  · intro entry member
    rcases mem_put member with rfl | held
    · exact whole
    · exact distinct.each entry held

/-! ## Changes to entries -/

end Entries

/-! ## Values of items -/

theorem valuesOf_eq_map (entries : Entries) :
    valuesOf entries = entries.map fun entry => (entry.1, entry.2.value) := by
  induction entries with
  | nil => rfl
  | cons entry rest induction =>
      rcases entry with ⟨key, item⟩
      rw [valuesOf, List.map_cons, induction]

theorem tableValues_eq_map (tables : List Entries) :
    tableValues tables = tables.map fun entries => .table (valuesOf entries) := by
  induction tables with
  | nil => rfl
  | cons entries rest induction => rw [tableValues, List.map_cons, induction]

theorem Item.Distinct.value {item : Item} (distinct : item.Distinct) :
    item.value.Distinct := by
  induction distinct with
  | leaf whole => exact whole
  | table keys _ induction =>
      rw [Item.value, valuesOf_eq_map]
      refine .table (by simpa [Function.comp_def] using keys)
        fun entry member => ?_
      rcases List.mem_map.mp member with ⟨held, listed, rfl⟩
      exact induction held listed
  | tables keys _ induction =>
      rw [Item.value, tableValues_eq_map]
      refine .array fun item member => ?_
      rcases List.mem_map.mp member with ⟨entries, listed, rfl⟩
      rw [valuesOf_eq_map]
      refine .table (by simpa [Function.comp_def] using keys entries listed)
        fun entry inside => ?_
      rcases List.mem_map.mp inside with ⟨held, below, rfl⟩
      exact induction entries listed held below

theorem Entries.Distinct.values {entries : Entries} (distinct : entries.Distinct) :
    (Value.table (valuesOf entries)).Distinct :=
  (Item.Distinct.table distinct.keys distinct.each :
    (Item.table .declared entries).Distinct).value

/-! ## Readers -/

section Readers

variable {reader : Reader Value}

end Readers

end WidgetTemplate.Toml
