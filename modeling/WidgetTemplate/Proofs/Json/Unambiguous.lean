import Std.Data.String.ToInt
import WidgetTemplate.Proofs.Json.Passing
import WidgetTemplate.Proofs.Text.Lines

/-!
# A text is the text of one value

In a given layout, different values have different texts.  Two values whose
texts start the same are told apart from the front: passing over either of them
leaves the same text, so the values take up the same characters, and what
follows them can be compared in the same way.
-/

namespace WidgetTemplate.Json

/-! ## Numbers -/

/-- Only the text of a decimal has a point or the letter of an exponent. -/
theorem decimal_ne_integer {literal : String}
    (spelled : (Number.decimal literal).Spelled) (value : Int) :
    (Number.decimal literal).onto [] ≠ (Number.integer value).onto [] := by
  intro same
  rcases spelled with ⟨sign, whole, ending, written, -, -, ends, nonempty⟩
  rcases ends.exists_cons nonempty with ⟨char, later, rfl, letters⟩
  have member : char ∈ (Number.integer value).onto [] := by
    rw [← same, Number.onto, written]
    simp
  rw [Number.onto, List.append_nil] at member
  simp only [List.mem_cons, List.not_mem_nil, or_false] at letters
  rcases letters with rfl | rfl | rfl
  all_goals exact absurd member (Text.notMem_toString rfl (by decide) value)

theorem Number.onto_nil_injective {first second : Number}
    (spelledFirst : first.Spelled) (spelledSecond : second.Spelled)
    (same : first.onto [] = second.onto []) :
    first = second := by
  cases first with
  | integer value =>
      cases second with
      | integer other =>
          simp only [onto, List.append_nil, String.toList_inj,
            Int.toString_eq_repr] at same
          rw [Int.repr_injective same]
      | decimal literal =>
          exact absurd same.symm (decimal_ne_integer spelledSecond value)
  | decimal literal =>
      cases second with
      | integer value => exact absurd same (decimal_ne_integer spelledFirst value)
      | decimal other =>
          simp only [onto, List.append_nil, String.toList_inj] at same
          rw [same]

theorem Number.onto_injective {first second : Number}
    (spelledFirst : first.Spelled) (spelledSecond : second.Spelled)
    {rest : List Char} (same : first.onto rest = second.onto rest) :
    first = second := by
  refine onto_nil_injective spelledFirst spelledSecond ?_
  cases first <;> cases second <;> simpa [onto] using same

/-! ## Values -/

variable (layout : Layout)

/-- Values whose texts start the same leave the same text behind them. -/
theorem rest_eq_of_onto_eq {level : Nat} {first second : Json}
    (writableFirst : first.Writable) (writableSecond : second.Writable)
    {restFirst restSecond : List Char} (stopsFirst : Stops restFirst)
    (stopsSecond : Stops restSecond)
    (same :
      layout.onto level first restFirst = layout.onto level second restSecond) :
    restFirst = restSecond := by
  have nothing : ∀ char ∈ ([] : List Char), isGap char := by simp
  have passedFirst := skipValue_onto layout writableFirst level nothing stopsFirst
  have passedSecond :=
    skipValue_onto layout writableSecond level nothing stopsSecond
  rw [List.nil_append, same] at passedFirst
  rw [List.nil_append, passedFirst] at passedSecond
  exact Except.ok.inj passedSecond

/-- Only a number is written like a number. -/
theorem exists_number_of_onto_eq {level : Nat} {number : Number} {other : Json}
    (spelled : number.Spelled) {rest restOther : List Char}
    (same : layout.onto level (.number number) rest =
      layout.onto level other restOther) :
    ∃ found, other = .number found := by
  rcases spelled.exists_cons rest with ⟨char, later, written, start⟩
  rw [Layout.onto, written] at same
  cases other with
  | number found => exact ⟨found, rfl⟩
  | null =>
      cases same
      exact absurd start (by decide)
  | bool value =>
      cases value <;>
        · cases same
          exact absurd start (by decide)
  | string text =>
      cases same
      exact absurd start (by decide)
  | array items =>
      cases same
      exact absurd start (by decide)
  | object members =>
      cases same
      exact absurd start (by decide)

mutual

theorem onto_injective (level : Nat) :
    (first second : Json) → first.Writable → second.Writable →
      (rest : List Char) → Stops rest →
        layout.onto level first rest = layout.onto level second rest →
          first = second
  | .number value, second, writable, writable', rest, stops, same => by
      have spelled : value.Spelled := writable.self
      rcases exists_number_of_onto_eq layout spelled same with ⟨found, rfl⟩
      rw [Number.onto_injective spelled writable'.self same]
  | .null, .null, _, _, _, _, _ => rfl
  | .bool true, .bool true, _, _, _, _, _ => rfl
  | .bool false, .bool false, _, _, _, _, _ => rfl
  | .string text, .string other, _, _, rest, _, same => by
      have read := readString_bodyOnto text rest
      simp only [Layout.onto, stringOnto_eq, List.cons.injEq, true_and] at same
      rw [same, readString_bodyOnto] at read
      cases read
      rfl
  | .array items, .array others, writable, writable', rest, _, same => by
      rw [itemsOnto_injective level items others writable.items
        writable'.items true _ _ rest
        (List.cons.inj same).2]
  | .object members, .object others, writable, writable', rest, _, same => by
      rw [membersOnto_injective level members others writable.members
        writable'.members true
        _ _ rest (List.cons.inj same).2]
  | first, .number value, writable, writable', rest, _, same => by
      have spelled : value.Spelled := writable'.self
      rcases exists_number_of_onto_eq layout spelled same.symm with ⟨found, rfl⟩
      rw [Number.onto_injective writable.self spelled same]

theorem itemsOnto_injective (level : Nat) :
    (first second : List Json) → (∀ item ∈ first, item.Writable) →
      (∀ item ∈ second, item.Writable) → (isFirst isEmpty isEmpty' : Bool) →
        (rest : List Char) →
          layout.itemsOnto (level + 1) isFirst first
              (layout.closeOnto level isEmpty (']' :: rest)) =
            layout.itemsOnto (level + 1) isFirst second
              (layout.closeOnto level isEmpty' (']' :: rest)) →
            first = second
  | [], [], _, _, _, _, _, _, _ => rfl
  | [], item :: items, _, writable, isFirst, isEmpty, isEmpty', rest, same => by
      have ended := nextItem_closeOnto layout level rest isFirst isEmpty
      rw [show layout.closeOnto level isEmpty (']' :: rest) = _ from same,
        Layout.itemsOnto, nextItem_item _ _ _ _ (writable item List.mem_cons_self)]
          at ended
      cases ended
  | item :: items, [], writable, _, isFirst, isEmpty, isEmpty', rest, same => by
      have ended := nextItem_closeOnto layout level rest isFirst isEmpty'
      rw [show layout.closeOnto level isEmpty' (']' :: rest) = _ from same.symm,
        Layout.itemsOnto, nextItem_item _ _ _ _ (writable item List.mem_cons_self)]
          at ended
      cases ended
  | item :: items, item' :: items', writable, writable', isFirst,
    isEmpty, isEmpty', rest,
      same => by
      have here := writable item List.mem_cons_self
      have here' := writable' item' List.mem_cons_self
      have stops (items : List Json) (isEmpty : Bool) :
          Stops (layout.itemsOnto (level + 1) false items
            (layout.closeOnto level isEmpty (']' :: rest))) :=
        stops_itemsOnto layout (level + 1)
          (stops_closeOnto layout level rest isEmpty ']' (by simp)) items
      have found := nextItem_item layout (level + 1)
        (layout.itemsOnto (level + 1) false items
          (layout.closeOnto level isEmpty (']' :: rest))) isFirst here
      rw [Layout.itemsOnto, Layout.itemsOnto] at same
      rw [same, nextItem_item _ _ _ _ here'] at found
      have found := (Prod.mk.inj (Except.ok.inj found)).2.symm
      -- First what is behind the two items, and with that the items themselves.
      have later := rest_eq_of_onto_eq layout here here' (stops items isEmpty)
        (stops items' isEmpty') found
      rw [later] at found
      rw [onto_injective (level + 1) item item' here here' _
        (stops items' isEmpty') found,
        itemsOnto_injective level items items'
          (fun other member => writable other (List.mem_cons_of_mem _ member))
          (fun other member => writable' other (List.mem_cons_of_mem _ member))
          false isEmpty isEmpty' rest later]

theorem membersOnto_injective (level : Nat) :
    (first second : List (String × Json)) → (∀ member ∈ first, member.2.Writable) →
      (∀ member ∈ second, member.2.Writable) → (isFirst isEmpty isEmpty' : Bool) →
        (rest : List Char) →
          layout.membersOnto (level + 1) isFirst first
              (layout.closeOnto level isEmpty ('\x7d' :: rest)) =
            layout.membersOnto (level + 1) isFirst second
              (layout.closeOnto level isEmpty' ('\x7d' :: rest)) →
            first = second
  | [], [], _, _, _, _, _, _, _ => rfl
  | [], (key, value) :: members, _, _, isFirst, isEmpty, isEmpty', rest, same => by
      have ended := nextEntry_closeOnto layout level rest isFirst isEmpty
      rw [show layout.closeOnto level isEmpty ('\x7d' :: rest) = _ from same,
        Layout.membersOnto, nextEntry_member] at ended
      cases ended
  | (key, value) :: members, [], _, _, isFirst, isEmpty, isEmpty', rest, same => by
      have ended := nextEntry_closeOnto layout level rest isFirst isEmpty'
      rw [show layout.closeOnto level isEmpty' ('\x7d' :: rest) = _ from same.symm,
        Layout.membersOnto, nextEntry_member] at ended
      cases ended
  | (key, value) :: members, (key', value') :: members', writable,
    writable', isFirst,
      isEmpty, isEmpty', rest, same => by
      have here : value.Writable := writable (key, value) List.mem_cons_self
      have here' : value'.Writable := writable' (key', value') List.mem_cons_self
      have stops (members : List (String × Json)) (isEmpty : Bool) :
          Stops (layout.membersOnto (level + 1) false members
            (layout.closeOnto level isEmpty ('\x7d' :: rest))) :=
        stops_membersOnto layout (level + 1)
          (stops_closeOnto layout level rest isEmpty '\x7d' (by simp)) members
      have found := nextEntry_member layout (level + 1)
        (':' :: (layout.spacing ++ layout.onto (level + 1) value
          (layout.membersOnto (level + 1) false members
            (layout.closeOnto level isEmpty ('\x7d' :: rest))))) isFirst key
      rw [Layout.membersOnto, Layout.membersOnto] at same
      rw [same, nextEntry_member] at found
      have read := readString_bodyOnto key
        (':' :: (layout.spacing ++ layout.onto (level + 1) value
          (layout.membersOnto (level + 1) false members
            (layout.closeOnto level isEmpty ('\x7d' :: rest)))))
      rw [← (Prod.mk.inj (Except.ok.inj found)).2, readString_bodyOnto] at read
      have ⟨named, valued⟩ := Prod.mk.inj (Except.ok.inj read)
      have found := (List.append_cancel_left (List.cons.inj valued).2).symm
      have later := rest_eq_of_onto_eq layout here here' (stops members isEmpty)
        (stops members' isEmpty') found
      rw [later] at found
      rw [named, onto_injective (level + 1) value value' here here' _
          (stops members' isEmpty') found,
        membersOnto_injective level members members'
          (fun other member => writable other (List.mem_cons_of_mem _ member))
          (fun other member => writable' other (List.mem_cons_of_mem _ member))
          false isEmpty isEmpty' rest later]

end

/-- Writable values with the same text are the same. -/
theorem textIn_injective {first second : Json} (writableFirst : first.Writable)
    (writableSecond : second.Writable)
    (same : first.textIn layout = second.textIn layout) :
    first = second := by
  refine onto_injective layout 0 first second writableFirst writableSecond
    [] stops_nil ?_
  simpa only [textIn, String.ofList_inj] using same

end WidgetTemplate.Json
