import WidgetTemplate.Json.Collection
import WidgetTemplate.Proofs.Json.Layout

/-!
# Readers of laid out values

A reader takes text, and what it should make of a value is better said about
the value itself.  `Reads reader decode` relates the two: on the text of a
value, in every layout and in front of every text that does not continue a
number, the reader gives what `decode` gives and leaves the text behind the
value, and it fails where `decode` does.  Why it fails does not matter here.

Lists and objects keep the relation: a reader of lists reads the items one by
one with the reader of an item, and a reader of objects takes a state through
the members in order.
-/

namespace WidgetTemplate.Json

/-! ## Blanks and first characters -/

theorem skipGaps_append {gap : List Char} (blank : ∀ char ∈ gap, isGap char)
    (rest : List Char) : skipGaps (gap ++ rest) = skipGaps rest :=
  List.dropWhile_append_of_pos blank

theorem skipGaps_cons {char : Char} (visible : isGap char = false)
    (rest : List Char) : skipGaps (char :: rest) = char :: rest :=
  List.dropWhile_cons_of_neg (by simp [visible])

theorem stops_nil : Stops [] :=
  ⟨by simp [NoDigit], by simp⟩

theorem stops_gap {gap rest : List Char} (blank : ∀ char ∈ gap, isGap char)
    (stops : Stops rest) : Stops (gap ++ rest) := by
  cases gap with
  | nil => exact stops
  | cons char later =>
      have blank := blank char List.mem_cons_self
      simp only [isGap, Bool.or_eq_true, beq_iff_eq] at blank
      rcases blank with ((rfl | rfl) | rfl) | rfl <;>
        simp [Stops, NoDigit]

theorem stops_cons {char : Char} (stop : char ∈ [',', ']', '\x7d'])
    (rest : List Char) : Stops (char :: rest) := by
  simp only [List.mem_cons, List.not_mem_nil, or_false] at stop
  rcases stop with rfl | rfl | rfl <;> simp [Stops, NoDigit]

/-- A number starts with its sign or with a digit. -/
theorem Number.Spelled.exists_cons {number : Number} (spelled : number.Spelled)
    (rest : List Char) :
    ∃ char later, number.onto rest = char :: later ∧
      (char = '-' ∨ char.isDigit) := by
  rcases spelled.onto_eq rest with
    ⟨sign, whole, ending, written, signs, ⟨nonempty, all, -⟩, -⟩
  simp only [List.mem_cons, List.not_mem_nil, or_false] at signs
  rcases signs with rfl | rfl
  · rcases List.exists_cons_of_ne_nil nonempty with ⟨first, others, rfl⟩
    exact ⟨first, _, written, .inr (all first List.mem_cons_self)⟩
  · exact ⟨'-', _, written, .inl rfl⟩

/-- What a number starts with starts nothing else. -/
theorem numberStart_ne {char other : Char} (start : char = '-' ∨ char.isDigit)
    (different : ¬ (other = '-' ∨ other.isDigit)) : char ≠ other := by
  rintro rfl
  exact different start

/-- No value starts with a blank, a comma or a closing bracket. -/
theorem Writable.exists_cons {value : Json} (writable : value.Writable)
    (layout : Layout) (level : Nat) (rest : List Char) :
    ∃ char later, layout.onto level value rest = char :: later ∧
      isGap char = false ∧ char ∉ [',', ']', '\x7d'] := by
  cases value with
  | null => exact ⟨'n', _, rfl, rfl, by decide⟩
  | bool value => cases value <;> exact ⟨_, _, rfl, rfl, by decide⟩
  | string text => exact ⟨'"', _, rfl, rfl, by decide⟩
  | array items => exact ⟨'[', _, rfl, rfl, by decide⟩
  | object members => exact ⟨'\x7b', _, rfl, rfl, by decide⟩
  | number number =>
      have spelled : number.Spelled := writable.self
      rcases spelled.exists_cons rest with ⟨char, later, written, start⟩
      refine ⟨char, later, written, ?_, ?_⟩
      · simp [isGap, numberStart_ne start]
      · simp [numberStart_ne start]

/-- The blanks in front of a value are skipped, and nothing of the value is. -/
theorem skipGaps_onto {value : Json} (writable : value.Writable) (layout : Layout)
    (level : Nat) {gap : List Char} (blank : ∀ char ∈ gap, isGap char)
    (rest : List Char) :
    skipGaps (gap ++ layout.onto level value rest) =
      layout.onto level value rest := by
  rcases writable.exists_cons layout level rest with
    ⟨char, later, written, visible, -⟩
  rw [skipGaps_append blank, written, skipGaps_cons visible]

/-- The character that opens a string, an array or an object. -/
def opening? : Json → Option Char
  | .string _ => some '"'
  | .array _ => some '['
  | .object _ => some '\x7b'
  | _ => none

/-- A value starts with none of these characters but the one that opens it. -/
theorem Writable.exists_cons_ne {value : Json} (writable : value.Writable)
    (layout : Layout) (level : Nat) (rest : List Char) :
    ∃ first later, layout.onto level value rest = first :: later ∧
      ∀ char ∈ ['"', '[', '\x7b'], value.opening? ≠ some char → first ≠ char := by
  cases value with
  | null => exact ⟨'n', _, rfl, by simp⟩
  | bool value =>
      cases value with
      | true => exact ⟨'t', _, rfl, by simp⟩
      | false => exact ⟨'f', _, rfl, by simp⟩
  | string text =>
      exact ⟨'"', _, rfl, fun _ _ other same => other (congrArg some same)⟩
  | array items =>
      exact ⟨'[', _, rfl, fun _ _ other same => other (congrArg some same)⟩
  | object members =>
      exact ⟨'\x7b', _, rfl, fun _ _ other same => other (congrArg some same)⟩
  | number number =>
      have spelled : number.Spelled := writable.self
      rcases spelled.exists_cons rest with ⟨first, later, written, start⟩
      have noNumber :
          ∀ char ∈ ['"', '[', '\x7b'], ¬ (char = '-' ∨ char.isDigit) := by simp
      exact ⟨first, later, written, fun char opens _ =>
        numberStart_ne start (noNumber char opens)⟩

/-! ## What readers give -/

section Outcome

variable {α β : Type}

@[simp]
theorem toOption_ok (value : α) :
    (.ok value : Except Failure α).toOption = some value :=
  rfl

@[simp]
theorem toOption_error (failure : Failure) :
    (.error failure : Except Failure α).toOption = none :=
  rfl

@[simp]
theorem toOption_throw (failure : Failure) :
    (throw failure : Except Failure α).toOption = none :=
  rfl

@[simp]
theorem toOption_pure (value : α) :
    (pure value : Except Failure α).toOption = some value :=
  rfl

@[simp]
theorem ok_bind (value : α) (next : α → Except Failure β) :
    ((.ok value : Except Failure α) >>= next) = next value :=
  rfl

@[simp]
theorem toOption_bind (outcome : Except Failure α) (next : α → Except Failure β) :
    (outcome >>= next).toOption =
      outcome.toOption.bind fun value => (next value).toOption := by
  cases outcome <;> rfl

@[simp]
theorem toOption_map (change : α → β) (outcome : Except Failure α) :
    (outcome.map change).toOption = outcome.toOption.map change := by
  cases outcome <;> rfl

@[simp]
theorem toOption_closing (close : List Char → Except Failure (List Char))
    (outcome : Except Failure (α × List Char)) :
    (closing close outcome).toOption =
      outcome.toOption.bind fun (value, rest) =>
        (close rest).toOption.map (value, ·) := by
  cases outcome with
  | error failure => rfl
  | ok found =>
      simp only [closing, toOption_ok, Option.bind_some]
      cases close found.2 <;> rfl

end Outcome

/--
On the text of an allowed value the reader gives what `decode` gives and
leaves what stands behind, or it fails where `decode` does.
-/
def Reads {α : Type} (allowed : Json → Prop) (reader : Reader α)
    (decode : Json → Option α) : Prop :=
  ∀ (layout : Layout) (level : Nat) (value : Json) (gap rest : List Char),
    value.Writable → allowed value → (∀ char ∈ gap, isGap char) → Stops rest →
      (reader (gap ++ layout.onto level value rest)).toOption =
        (decode value).map (·, rest)

/-- The same for a reader of one member, behind the opening quote of its key. -/
def ReadsMember {σ : Type} (allowed : Json → Prop) (entry : σ → Reader σ)
    (step : σ → String × Json → Option σ) : Prop :=
  ∀ (layout : Layout) (level : Nat) (state : σ) (key : String) (value : Json)
    (rest : List Char),
    value.Writable → allowed value → Stops rest →
      (entry state
          (bodyOnto key
            (':' :: (layout.spacing ++ layout.onto level value rest)))).toOption =
        (step state (key, value)).map (·, rest)

theorem reads_string (allowed : Json → Prop) :
    Reads allowed readStringValue string? := by
  intro layout level value gap rest writable _ blank stops
  rw [readStringValue, skipGaps_onto writable layout level blank]
  cases value with
  | string text => simp [Layout.onto, stringOnto_eq, string?]
  | _ =>
      rcases writable.exists_cons_ne layout level rest with
        ⟨first, later, written, other⟩
      have noQuote := other '"' (by simp) (by simp [opening?])
      simp [written, noQuote, string?]

section Collections

variable {α σ : Type} {allowed : Json → Prop}
variable (layout : Layout) (level : Nat) (rest : List Char)

/-! ## Lists -/

theorem skipGaps_closeOnto (isEmpty : Bool) {bracket : Char}
    (visible : isGap bracket = false) :
    skipGaps (layout.closeOnto level isEmpty (bracket :: rest)) =
      bracket :: rest := by
  cases isEmpty with
  | true => exact skipGaps_cons visible rest
  | false =>
      exact (skipGaps_append (layout.lead_isGap level) _).trans
        (skipGaps_cons visible rest)

theorem stops_closeOnto (isEmpty : Bool) (bracket : Char)
    (closes : bracket ∈ [',', ']', '\x7d']) :
    Stops (layout.closeOnto level isEmpty (bracket :: rest)) := by
  cases isEmpty with
  | true => exact stops_cons closes rest
  | false => exact stops_gap (layout.lead_isGap level) (stops_cons closes rest)

theorem stops_itemsOnto {rest : List Char} (stops : Stops rest)
    (items : List Json) :
    Stops (layout.itemsOnto level false items rest) := by
  cases items with
  | nil => exact stops
  | cons item items => exact stops_cons List.mem_cons_self _

theorem nextItem_closeOnto (isFirst isEmpty : Bool) :
    nextItem isFirst (layout.closeOnto level isEmpty (']' :: rest)) =
      .ok (false, ']' :: rest) := by
  simp [nextItem, skipGaps_closeOnto, isGap]

/-- Behind a comma, or at the start, the next item is found. -/
theorem nextItem_item (isFirst : Bool) {item : Json} (writable : item.Writable) :
    nextItem isFirst
        (Layout.commaOnto isFirst
          (layout.lead level ++ layout.onto level item rest)) =
      .ok (true, layout.onto level item rest) := by
  rcases writable.exists_cons layout level rest with
    ⟨char, later, written, visible, noBracket⟩
  have found : skipGaps (layout.lead level ++ char :: later) = char :: later := by
    rw [skipGaps_append (layout.lead_isGap level), skipGaps_cons visible]
  simp only [List.mem_cons, List.not_mem_nil, or_false, not_or] at noBracket
  rw [written]
  cases isFirst with
  | true => simp [Layout.commaOnto, nextItem, found, noBracket]
  | false =>
      have comma := skipGaps_cons (rfl : isGap ',' = false)
        (layout.lead level ++ char :: later)
      simp [Layout.commaOnto, nextItem, comma, found, noBracket]

theorem Reads.items {item : Reader α} {decode : Json → Option α}
    (reads : Reads allowed item decode) (isEmpty : Bool) :
    (items : List Json) → (∀ value ∈ items, value.Writable ∧ allowed value) →
      (steps : List Char) → items.length < steps.length → (isFirst : Bool) →
        (readItems item steps isFirst
            (layout.itemsOnto (level + 1) isFirst items
              (layout.closeOnto level isEmpty (']' :: rest)))).toOption =
          (items.mapM decode).map (·, ']' :: rest)
  | [], _, [], few, _ => by simp at few
  | [], _, _ :: steps, _, isFirst => by
      rw [Layout.itemsOnto, readItems, nextItem_closeOnto]
      rfl
  | value :: items, _, [], few, _ => by simp at few
  | value :: items, each, _ :: steps, few, isFirst => by
      have here := each value List.mem_cons_self
      have later := fun other member =>
        each other (List.mem_cons_of_mem value member)
      have stops :=
        stops_itemsOnto layout (level + 1)
          (stops_closeOnto layout level rest isEmpty ']' (by simp)) items
      have first :=
        reads layout (level + 1) value [] _ here.1 here.2 (by simp) stops
      have others :=
        Reads.items reads isEmpty items later steps (by simpa using few) false
      rw [List.nil_append] at first
      rw [Layout.itemsOnto, readItems, nextItem_item _ _ _ _ here.1]
      simp only [toOption_bind, toOption_ok, Option.bind_some, if_true, first,
        List.mapM_cons]
      cases decode value with
      | none => rfl
      | some decoded =>
          simp only [Option.map_some, Option.bind_some, others]
          cases items.mapM decode <;> rfl

/-- A list is read by reading its items. -/
theorem Reads.list {item : Reader α} {decode : Json → Option α}
    (reads : Reads allowed item decode) {items : List Json}
    (each : ∀ value ∈ items, value.Writable ∧ allowed value) :
    (readList item
        (layout.itemsOnto (level + 1) true items
          (layout.closeOnto level items.isEmpty (']' :: rest)))).toOption =
      (items.mapM decode).map (·, rest) := by
  have enough :=
    layout.extentOfItems_le_length (level + 1) items
      (fun value member => (each value member).1)
      true (layout.closeOnto level items.isEmpty (']' :: rest))
  have closed := layout.length_closeOnto level items.isEmpty (']' :: rest)
  have few := length_le_extentOfItems items
  rw [readList, toOption_closing,
    Reads.items layout level rest reads items.isEmpty items each _
    (by simp at *; omega) true]
  cases items.mapM decode with
  | none => rfl
  | some decoded => simp [closeList, skipGaps_cons, isGap]

/-! ## Objects -/

theorem stops_membersOnto {rest : List Char} (stops : Stops rest)
    (members : List (String × Json)) :
    Stops (layout.membersOnto level false members rest) := by
  cases members with
  | nil => exact stops
  | cons member members => exact stops_cons List.mem_cons_self _

theorem nextEntry_closeOnto (isFirst isEmpty : Bool) :
    nextEntry isFirst (layout.closeOnto level isEmpty ('\x7d' :: rest)) =
      .ok (false, '\x7d' :: rest) := by
  simp [nextEntry, skipGaps_closeOnto, isGap]

/-- Behind a comma, or at the start, the key of the next member is found. -/
theorem nextEntry_member (isFirst : Bool) (key : String) :
    nextEntry isFirst
        (Layout.commaOnto isFirst (layout.lead level ++ stringOnto key rest)) =
      .ok (true, bodyOnto key rest) := by
  have found :
      skipGaps (layout.lead level ++ '"' :: bodyOnto key rest) =
        '"' :: bodyOnto key rest := by
    rw [skipGaps_append (layout.lead_isGap level)]
    exact skipGaps_cons rfl _
  rw [stringOnto_eq]
  cases isFirst with
  | true => simp [Layout.commaOnto, nextEntry, found]
  | false =>
      have comma :=
        skipGaps_cons (rfl : isGap ',' = false)
          (layout.lead level ++ '"' :: bodyOnto key rest)
      simp [Layout.commaOnto, nextEntry, comma, found]

theorem ReadsMember.members {entry : σ → Reader σ}
    {step : σ → String × Json → Option σ}
    (reads : ReadsMember allowed entry step) (isEmpty : Bool) :
    (members : List (String × Json)) →
      (∀ member ∈ members, member.2.Writable ∧ allowed member.2) →
      (steps : List Char) → members.length < steps.length → (isFirst : Bool) →
        (state : σ) →
          (readEntriesWithin entry steps isFirst state
              (layout.membersOnto (level + 1) isFirst members
                (layout.closeOnto level isEmpty ('\x7d' :: rest)))).toOption =
            (members.foldlM step state).map (·, '\x7d' :: rest)
  | [], _, [], few, _, _ => by simp at few
  | [], _, _ :: steps, _, isFirst, state => by
      rw [Layout.membersOnto, readEntriesWithin, nextEntry_closeOnto]
      rfl
  | (key, value) :: members, _, [], few, _, _ => by simp at few
  | (key, value) :: members, each, _ :: steps, few, isFirst, state => by
      have here := each (key, value) List.mem_cons_self
      have later :=
        fun other member => each other (List.mem_cons_of_mem (key, value) member)
      have stops :=
        stops_membersOnto layout (level + 1)
          (stops_closeOnto layout level rest isEmpty '\x7d' (by simp))
          members
      have first := reads layout (level + 1) state key value _ here.1 here.2 stops
      have others := fun state =>
        ReadsMember.members reads isEmpty members later steps (by simpa using few)
          false state
      rw [Layout.membersOnto, readEntriesWithin, nextEntry_member]
      simp only [toOption_bind, toOption_ok, Option.bind_some, if_true, first,
        List.foldlM_cons]
      cases step state (key, value) with
      | none => rfl
      | some changed => simp only [Option.map_some, Option.bind_some, others]; rfl

/-- An object is read by taking a state through its members. -/
theorem ReadsMember.object {entry : σ → Reader σ}
    {step : σ → String × Json → Option σ}
    (reads : ReadsMember allowed entry step) {members : List (String × Json)}
    (each : ∀ member ∈ members, member.2.Writable ∧ allowed member.2) (state : σ) :
    (readEntries entry state
        (layout.membersOnto (level + 1) true members
          (layout.closeOnto level members.isEmpty ('\x7d' :: rest)))).toOption =
      (members.foldlM step state).map (·, '\x7d' :: rest) := by
  have enough :=
    layout.extentOfMembers_le_length (level + 1) members
      (fun member listed => (each member listed).1) true
      (layout.closeOnto level members.isEmpty ('\x7d' :: rest))
  have closed :=
    layout.length_closeOnto level members.isEmpty ('\x7d' :: rest)
  have few := length_le_extentOfMembers members
  refine ReadsMember.members layout level rest reads members.isEmpty
    members each _ ?_
    true state
  simp only [List.length_cons, if_true] at *
  omega

@[simp]
theorem closeObject_bracket : closeObject ('\x7d' :: rest) = .ok rest := by
  simp [closeObject, skipGaps_cons, isGap]

@[simp]
theorem closeList_bracket : closeList (']' :: rest) = .ok rest := by
  simp [closeList, skipGaps_cons, isGap]

theorem closeList_closeOnto (isEmpty : Bool) :
    closeList (layout.closeOnto level isEmpty (']' :: rest)) = .ok rest := by
  simp [closeList, skipGaps_closeOnto, isGap]

@[simp]
theorem readColon_colon : readColon (':' :: rest) = .ok rest := by
  simp [readColon, skipGaps_cons, isGap]

end Collections

end WidgetTemplate.Json
