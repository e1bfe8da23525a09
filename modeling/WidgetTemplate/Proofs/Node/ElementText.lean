import WidgetTemplate.Proofs.Json.Passing
import WidgetTemplate.Proofs.Node.Serialized

/-!
# Reading elements from JSON text

The readers of attribute values, of attributes and of the fields of an element
are taken from their text to the values in it.  The fields of an element
written as an object may stand in any order, and as its keys are distinct, a
field holds the value of its only member.
-/

namespace WidgetTemplate

open Json

/-! ## Attributes -/

namespace Schema.Field

theorem named_eq_iff {field : Field} (known : field ≠ .other) (word : String) :
    named word = field ↔ word = field.key := by
  constructor
  · rintro rfl
    unfold named at known ⊢
    split <;> simp_all [key]
  · rintro rfl
    cases field <;> rfl

end Schema.Field

namespace AttributeValue

theorem readAny_number (budget : Nat) {number : Number} (spelled : number.Spelled)
    (rest : List Char) :
    readAny budget (number.onto rest) =
      (readNumber (number.onto rest)).map fun (value, rest) =>
        match value with
        | .integer value => (ofJson? (.number (.integer value)), rest)
        | .float _ => (none, rest) := by
  rcases spelled.exists_cons rest with ⟨char, later, written, start⟩
  have other (char' : Char) (different : ¬ (char' = '-' ∨ char'.isDigit)) :
      char ≠ char' :=
    numberStart_ne start different
  have visible : isGap char = false := by simp [isGap, other]
  rw [written, readAny.eq_def, skipGaps_cons visible]
  simp [other, start]
  rfl

/-- What is read as a number of double precision is no attribute value. -/
theorem toOption_read_of_isFloating (budget : Nat) {number : Number}
    (spelled : number.Spelled) {rest : List Char}
    (floating : IsFloating (readNumber (number.onto rest))) :
    (read budget (number.onto rest)).toOption = none := by
  rw [read, readAny_number budget spelled]
  cases outcome : readNumber (number.onto rest) with
  | error failure => rfl
  | ok found =>
      rcases found with ⟨value, later⟩
      cases value with
      | float value => rfl
      | integer value => exact absurd outcome (floating value later)

theorem readAny_append (budget : Nat) {gap : List Char}
    (blank : ∀ char ∈ gap, isGap char) (rest : List Char) :
    readAny budget (gap ++ rest) = readAny budget rest := by
  rw [readAny.eq_def, readAny.eq_def budget rest, skipGaps_append blank]

theorem reads (allowed : Json → Prop) (budget : Nat) :
    Reads allowed (AttributeValue.read budget) ofJson? := by
  intro layout level value gap rest writable _ blank stops
  rw [read, readAny_append budget blank]
  cases value with
  | null => cases budget <;> rfl
  | bool value => cases budget <;> cases value <;> rfl
  | string text =>
      rw [readAny.eq_def, Layout.onto, stringOnto_eq, skipGaps_cons rfl]
      simp [ofJson?, Except.map]
  | array items =>
      cases budget with
      | zero => rfl
      | succ inner =>
          rw [readAny.eq_def, Layout.onto, skipGaps_cons rfl]
          simp only [ofJson?, Option.map_none]
          cases readList (readAny inner) _ <;> rfl
  | object members =>
      cases budget with
      | zero => rfl
      | succ inner =>
          rw [readAny.eq_def, Layout.onto, skipGaps_cons rfl]
          simp only [ofJson?, Option.map_none]
          cases closing closeObject _ <;> rfl
  | number number =>
      have spelled : number.Spelled := writable.self
      cases number with
      | decimal literal =>
          exact toOption_read_of_isFloating budget spelled
            (isFloating_readNumber_decimal spelled stops)
      | integer value =>
          rcases readNumber_integer value stops with read | ⟨unfit, floating⟩
          · rw [Layout.onto, readAny_number budget spelled, read]
            simp only [Except.map]
            cases ofJson? (.number (.integer value)) <;> rfl
          · have noValue : ofJson? (.number (.integer value)) = none := by
              simp [ofJson?, unfit]
            rw [noValue]
            exact toOption_read_of_isFloating budget spelled floating

end AttributeValue

namespace Node

/-- The attributes with one more member of the object taken up. -/
def setAttribute (attributes : Attributes) (member : String × Json) :
    Option Attributes :=
  (AttributeValue.ofJson? member.2).map (attributes.insert member.1)

theorem foldlM_setAttribute (members : List (String × Json))
    (attributes : Attributes) :
    members.foldlM setAttribute attributes =
      (members.mapM setting?).map fun found =>
        found.foldl (fun map (key, value) => map.insert key value) attributes := by
  induction members generalizing attributes with
  | nil => rfl
  | cons member members induction =>
      rw [List.foldlM_cons, List.mapM_cons, setting?, setAttribute]
      cases AttributeValue.ofJson? member.2 with
      | none => rfl
      | some value =>
          simp only [Option.map_some, Option.bind_eq_bind,
            Option.bind_some, induction]
          cases members.mapM setting? <;> rfl

theorem reads_attributes (allowed : Json → Prop) (budget : Nat) :
    Reads allowed (readAttributes budget) (attributesWithin budget) := by
  intro layout level value gap rest writable _ blank stops
  rw [readAttributes, skipGaps_onto writable layout level blank]
  cases value with
  | object members =>
      cases budget with
      | zero => rfl
      | succ budget =>
          have each : ∀ member ∈ members, member.2.Writable ∧ True :=
            fun member listed => ⟨writable.members member listed, trivial⟩
          have read (entry : Attributes → Reader Attributes)
              (reads : ReadsMember (fun _ => True) entry setAttribute) :=
            reads.object layout level rest each .empty
          simp only [Layout.onto, attributesWithin]
          rw [toOption_closing, read, foldlM_setAttribute]
          · cases members.mapM setting? with
            | none => rfl
            | some found => simp [SortedMap.ofList]
          · intro layout level attributes key value rest writable _ stops
            have read :=
              AttributeValue.reads (fun _ => True) budget layout level value
                layout.spacing rest writable trivial layout.spacing_isGap stops
            simp only [readString_bodyOnto, ok_bind, readColon_colon,
              toOption_bind, read, setAttribute]
            cases AttributeValue.ofJson? value <;> rfl
  | _ =>
      rcases writable.exists_cons_ne layout level rest with
        ⟨first, later, written, other⟩
      have noBrace := other '\x7b' (by simp) (by simp [opening?])
      simp [written, noBrace, attributesWithin]

/-! ## Fields of an element -/

/-- A field is set once. -/
def once {α : Type} (held found : Option α) : Option α :=
  if held.isSome then none else found

/-- The fields with one more member of the object taken up. -/
def Fields.take (budget : Nat) (child : Json → Option Node) (fields : Fields)
    (member : String × Json) : Option Fields :=
  match Schema.Field.named member.1 with
  | .name =>
      (once fields.name member.2.string?).map fun name =>
        { fields with name := some name }
  | .attributes =>
      (once fields.attributes (attributesWithin budget member.2)).map
        fun attributes =>
        { fields with attributes := some attributes }
  | .body =>
      (once fields.body (child member.2)).map fun body =>
        { fields with body := some body }
  | .other => some fields

theorem toOption_readField {α : Type} {allowed : Json → Prop} {reader : Reader α}
    {decode : Json → Option α} (reads : Reads allowed reader decode)
    (field : Schema.Field) (held : Option α) (layout : Layout) (level : Nat)
    {value : Json} {rest : List Char} (writable : value.Writable)
    (permitted : allowed value) (stops : Stops rest) :
    (readField field held reader
        (':' :: (layout.spacing ++ layout.onto level value rest))).toOption =
      (once held (decode value)).map (·, rest) := by
  have read := reads layout level value layout.spacing rest writable permitted
    layout.spacing_isGap stops
  cases held with
  | some found => rfl
  | none => simpa [readField, once] using read

theorem reads_entry {allowed : Json → Prop} (budget : Nat) {body : Reader Node}
    {child : Json → Option Node} (reads : Reads allowed body child) :
    ReadsMember allowed (readEntry budget body) (Fields.take budget child) := by
  intro layout level fields key value rest writable permitted stops
  simp only [readEntry, readString_bodyOnto, ok_bind, Fields.take]
  cases Schema.Field.named key with
  | name =>
      have read :=
        toOption_readField (reads_string allowed) .name fields.name layout
        level writable permitted stops
      simp only [toOption_bind, read]
      cases once fields.name value.string? <;> rfl
  | attributes =>
      have read := toOption_readField (reads_attributes allowed budget) .attributes
        fields.attributes layout level writable permitted stops
      simp only [toOption_bind, read]
      cases once fields.attributes (attributesWithin budget value) <;> rfl
  | body =>
      have read := toOption_readField reads .body fields.body layout level writable
        permitted stops
      simp only [toOption_bind, read]
      cases once fields.body (child value) <;> rfl
  | other =>
      simp only [readColon_colon, ok_bind,
        skipValue_onto layout writable level layout.spacing_isGap stops]
      rfl

/-- What a field holds after the members of an object. -/
def filled {α : Type} (field : Schema.Field) (decode : Json → Option α) :
    Option α → List (String × Json) → Option (Option α)
  | held, [] => some held
  | held, (key, value) :: members =>
      if Schema.Field.named key = field then
        (once held (decode value)).bind fun found =>
          filled field decode (some found) members
      else
        filled field decode held members

/-- The fields do not depend on each other. -/
theorem foldlM_take (budget : Nat) (child : Json → Option Node)
    (members : List (String × Json)) (fields : Fields) :
    members.foldlM (Fields.take budget child) fields = do
      let name ← filled .name string? fields.name members
      let attributes ← filled .attributes
        (attributesWithin budget) fields.attributes members
      let body ← filled .body child fields.body members
      return { name, attributes, body } := by
  -- The fields that are not taken up go on as they are; a failure of one is
  -- a failure of all.
  induction members generalizing fields with
  | nil => rfl
  | cons member members induction =>
      rcases member with ⟨key, value⟩
      rw [List.foldlM_cons]
      cases named : Schema.Field.named key with
      | name =>
          simp only [Fields.take, filled, named, reduceCtorEq, if_false, if_true]
          cases once fields.name value.string? with
          | none => rfl
          | some name => simp [induction]
      | attributes =>
          simp only [Fields.take, filled, named, reduceCtorEq, if_false, if_true]
          cases once fields.attributes (attributesWithin budget value) with
          | none => cases filled .name string? fields.name members <;> rfl
          | some attributes => simp [induction]
      | body =>
          simp only [Fields.take, filled, named, reduceCtorEq, if_false, if_true]
          cases once fields.body (child value) with
          | none =>
              cases filled .name string? fields.name members <;>
                cases filled .attributes
                  (attributesWithin budget) fields.attributes members <;>
                  rfl
          | some body => simp [induction]
      | other => simp [Fields.take, filled, named, induction]

theorem filled_of_not_mem {α : Type} {field : Schema.Field}
    (known : field ≠ .other) (decode : Json → Option α) (held : Option α)
    {members : List (String × Json)} (absent : field.key ∉ members.map (·.1)) :
    filled field decode held members = some held := by
  induction members with
  | nil => rfl
  | cons member members induction =>
      rcases member with ⟨key, value⟩
      simp only [List.map_cons, List.mem_cons, not_or] at absent
      have other : Schema.Field.named key ≠ field := fun named =>
        absent.1 ((Schema.Field.named_eq_iff known key).mp named).symm
      rw [filled, if_neg other]
      exact induction absent.2

/-- A field holds the value of its only member. -/
theorem filled_eq_lookup {α : Type} {field : Schema.Field} (known : field ≠ .other)
    (decode : Json → Option α) {members : List (String × Json)}
    (distinct : (members.map (·.1)).Nodup) :
    filled field decode none members =
      match members.lookup field.key with
      | none => some none
      | some value => (decode value).map some := by
  induction members with
  | nil => rfl
  | cons member members induction =>
      rcases member with ⟨key, value⟩
      rw [List.map_cons, List.nodup_cons] at distinct
      rw [filled, SortedMap.lookup_cons, induction distinct.2]
      by_cases same : key = field.key
      · subst same
        rw [if_pos ((Schema.Field.named_eq_iff known _).mpr rfl), if_pos rfl]
        simp only [once, filled_of_not_mem known decode _ distinct.1]
        cases decode value <;> rfl
      · rw [if_neg fun named =>
          same ((Schema.Field.named_eq_iff known _).mp named),
          if_neg (Ne.symm same)]

/-! ## Elements -/

/-- The element of its fields. -/
def Fields.node? (fields : Fields) : Option Node :=
  fields.name.map fun name =>
    .tag name (fields.attributes.getD .empty) (fields.body.getD emptyBody)

theorem toOption_element (fields : Fields) (rest : List Char) :
    (fields.element rest).toOption = fields.node?.map (·, rest) := by
  unfold Fields.element Fields.node?
  cases fields.name <;> rfl

/-- Whether the parts of an element are found does not depend on their order. -/
theorem bind_node? (name : Option (Option String))
    (attributes : Option (Option Attributes)) (body : Option (Option Node)) :
    (do
      let name ← name
      let attributes ← attributes
      let body ← body
      return { name, attributes, body : Fields }).bind Fields.node? = do
        let name ← name.join
        let attributes ← attributes.map (·.getD .empty)
        let body ← body.map (·.getD emptyBody)
        return .tag name attributes body := by
  rcases name with _ | _ | name <;>
    rcases attributes with _ | attributes <;>
      rcases body with _ | body <;> rfl

/-- Taking up the members one by one gives the element of the object. -/
theorem bind_foldlM_take (budget : Nat) (child : Json → Option Node)
    {members : List (String × Json)} (distinct : (members.map (·.1)).Nodup) :
    (members.foldlM (Fields.take budget child) .none).bind Fields.node? =
      (elementValues? (.object members)).bind (elementOf budget child) := by
  have part {α : Type} (missing : α) (field : Schema.Field)
    (known : field ≠ .other)
      (decode : Json → Option α) :
      (filled field decode none members).map (·.getD missing) =
        partOr missing decode (members.lookup field.key) := by
    rw [filled_eq_lookup known decode distinct]
    cases members.lookup field.key with
    | none => rfl
    | some value =>
        simp only [partOr]
        cases decode value <;> rfl
  have named : (filled .name string? none members).join =
      (members.lookup "name").bind string? := by
    rw [filled_eq_lookup (by decide) string? distinct, Schema.Field.key]
    cases members.lookup "name" with
    | none => rfl
    | some value => cases value <;> rfl
  rw [foldlM_take, bind_node?]
  simp only [Fields.none, named, part, ne_eq, reduceCtorEq, not_false_eq_true,
    Schema.Field.key, elementValues?]
  cases members.lookup "name" with
  | none => rfl
  | some value => rfl

/-- An element written as an object, behind its opening bracket. -/
theorem toOption_readElementObject {allowed : Json → Prop} (budget : Nat)
    {body : Reader Node} {child : Json → Option Node}
    (reads : Reads allowed body child) (layout : Layout) (level : Nat)
    {members : List (String × Json)} (distinct : (members.map (·.1)).Nodup)
    (each : ∀ member ∈ members, member.2.Writable ∧ allowed member.2)
    (rest : List Char) :
    (readElementObject budget body
        (layout.membersOnto (level + 1) true members
          (layout.closeOnto level members.isEmpty ('\x7d' :: rest)))).toOption =
      ((elementValues? (.object members)).bind (elementOf budget child)).map
        (·, rest) := by
  have read := (reads_entry budget reads).object layout level rest each .none
  rw [readElementObject, toOption_closing, toOption_bind, read,
    ← bind_foldlM_take budget child distinct]
  cases members.foldlM (Fields.take budget child) .none with
  | none => rfl
  | some fields =>
      simp only [Option.map_some, Option.bind_some, toOption_element]
      cases fields.node? <;> simp

/-- The element of an array, part after part. -/
theorem elementOf_array_cons (budget : Nat)
    (child : Json → Option Node) (name : Json) (items : List Json) :
    (elementValues? (.array (name :: items))).bind (elementOf budget child) =
      name.string?.bind fun name =>
        match items with
        | [] => some (.tag name .empty emptyBody)
        | attributes :: items =>
            (attributesWithin budget attributes).bind fun attributes =>
              match items with
              | [] => some (.tag name attributes emptyBody)
              | [inner] => (child inner).map (.tag name attributes)
              | _ => none := by
  rcases items with _ | ⟨attributes, _ | ⟨inner, _ | ⟨extra, items⟩⟩⟩
  · rfl
  · rfl
  · simp only [elementValues?, elementOf, partOr, Option.bind_some]
    cases name.string? with
    | none => rfl
    | some name =>
        cases attributesWithin budget attributes with
        | none => rfl
        | some attributes => cases child inner <;> rfl
  · simp [elementValues?]

/-- No list closes in front of a comma. -/
theorem toOption_closeList_comma (text : List Char) :
    (closeList (',' :: text)).toOption = none := by
  rw [closeList, skipGaps_cons rfl]
  simp only
  split <;> rfl

/-- An element written as a list, behind its opening bracket. -/
theorem toOption_readElementList {allowed : Json → Prop} (budget : Nat)
    {body : Reader Node} {child : Json → Option Node}
    (reads : Reads allowed body child) (layout : Layout) (level : Nat)
    {items : List Json} (each : ∀ item ∈ items, item.Writable ∧ allowed item)
    (rest : List Char) :
    (readElementList budget body
        (layout.itemsOnto (level + 1) true items
          (layout.closeOnto level items.isEmpty (']' :: rest)))).toOption =
      ((elementValues? (.array items)).bind (elementOf budget child)).map
        (·, rest) := by
  have stops (later : List Json) :
      Stops (layout.itemsOnto (level + 1) false later
        (layout.closeOnto level false (']' :: rest))) :=
    stops_itemsOnto layout (level + 1)
      (stops_closeOnto layout level rest false ']' (by simp)) later
  have next (isFirst : Bool) {item : Json} (writable : item.Writable)
      (later : List Json) (behind : List Char) :
      nextItem isFirst
        (layout.itemsOnto (level + 1) isFirst (item :: later) behind) =
        .ok (true, layout.onto (level + 1) item
          (layout.itemsOnto (level + 1) false later behind)) :=
    nextItem_item layout (level + 1) _ isFirst writable
  have part {α : Type} {reader : Reader α} {decode : Json → Option α}
      (reads : Reads allowed reader decode) {item : Json}
        (writable : item.Writable)
      (permitted : allowed item) (later : List Json) :
      (reader (layout.onto (level + 1) item
          (layout.itemsOnto (level + 1) false later
            (layout.closeOnto level false (']' :: rest))))).toOption =
        (decode item).map (·, layout.itemsOnto (level + 1) false later
          (layout.closeOnto level false (']' :: rest))) :=
    reads layout (level + 1) item [] _ writable permitted (by simp) (stops later)
  have last :
      nextItem false (layout.itemsOnto (level + 1) false []
        (layout.closeOnto level false (']' :: rest))) = .ok (false, ']' :: rest) :=
    nextItem_closeOnto layout level rest false false
  rcases items with _ | ⟨name, items⟩
  · simp [readElementList, Layout.itemsOnto, nextItem_closeOnto, elementValues?]
  have named := each name (by simp)
  have readName := part (reads_string allowed) named.1 named.2 items
  rw [readElementList, toOption_closing, List.isEmpty_cons]
  simp only [next true named.1, toOption_bind, toOption_ok, Option.bind_some,
    Bool.not_true, Bool.false_eq_true, if_false, readName]
  rw [elementOf_array_cons]
  cases name.string? with
  | none => rfl
  | some text =>
      rcases items with _ | ⟨attributes, items⟩
      · simp [last]
      have attributed := each attributes (by simp)
      have readAttributes :=
        part (reads_attributes allowed budget) attributed.1 attributed.2 items
      simp only [Option.map_some, Option.bind_some, next false attributed.1,
        toOption_bind, toOption_ok, Bool.not_true, Bool.false_eq_true, if_false,
        readAttributes]
      cases attributesWithin budget attributes with
      | none => rfl
      | some given =>
          rcases items with _ | ⟨inner, items⟩
          · simp [last]
          have bodied := each inner (by simp)
          have readBody := part reads bodied.1 bodied.2 items
          simp only [Option.map_some, Option.bind_some, next false bodied.1,
            toOption_bind, toOption_ok, Bool.not_true, Bool.false_eq_true,
            if_false, readBody]
          cases items with
          | nil =>
              have closed : closeList (layout.itemsOnto (level + 1) false []
                  (layout.closeOnto level false (']' :: rest))) = .ok rest :=
                closeList_closeOnto layout level rest false
              cases found : child inner <;> simp [closed, found]
          | cons extra items =>
              cases child inner <;>
                simp [Layout.itemsOnto, Layout.commaOnto, toOption_closeList_comma]

end Node

end WidgetTemplate
