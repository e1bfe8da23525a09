import WidgetTemplate.Proofs.Node.ElementText
import WidgetTemplate.Proofs.Node.Grammar
import WidgetTemplate.Source.Read

/-!
# Reading templates from JSON text

Reading the text of a JSON value gives the node of the value, in every layout,
and fails if the value has none.  What the grammar says of values therefore
holds of texts: a compact text is read exactly if it is the text of a template,
and the text of every serialized node is read as that node, as long as it does
not nest too deep.
-/

namespace WidgetTemplate.Node

open Json

/-! ## From texts to values -/

section Readers

variable {reader : Reader Node} {child : Json → Option Node}

theorem reads_sequence (reads : Reads Json.Distinct reader child) (budget : Nat) :
    Reads Json.Distinct (readForm budget reader .multi)
      (formWithin budget child .multi) := by
  intro layout level value gap rest writable distinct blank stops
  rw [readForm, skipGaps_onto writable layout level blank]
  cases value with
  | array items =>
      have each := fun item member =>
        And.intro (writable.items item member) (distinct.items item member)
      have read := reads.list layout level rest each
      by_cases spent : budget = 0
      · simp [Layout.onto, formWithin, spent]
      · simp only [Layout.onto, formWithin, spent, if_false, toOption_map, read]
        cases items.mapM child <;> rfl
  | _ =>
      rcases writable.exists_cons_ne layout level rest with
        ⟨first, later, written, other⟩
      have noBracket := other '[' (by simp) (by simp [opening?])
      simp [written, noBracket, formWithin]

theorem reads_element (reads : Reads Json.Distinct reader child) (budget : Nat) :
    Reads Json.Distinct (readForm budget reader .tag)
      (formWithin budget child .tag) := by
  intro layout level value gap rest writable distinct blank stops
  rw [readForm, skipGaps_onto writable layout level blank]
  cases value with
  | array items =>
      have each := fun item member =>
        And.intro (writable.items item member) (distinct.items item member)
      by_cases spent : budget = 0
      · simp [Layout.onto, formWithin, spent]
      · simp only [Layout.onto, formWithin, spent, if_false]
        exact toOption_readElementList (budget - 1) reads layout level each rest
  | object members =>
      have each := fun member listed =>
        And.intro (writable.members member listed) (distinct.members member listed)
      by_cases spent : budget = 0
      · simp [Layout.onto, formWithin, spent]
      · simp only [Layout.onto, formWithin, spent, if_false]
        exact toOption_readElementObject
          (budget - 1) reads layout level distinct.keys each
          rest
  | _ =>
      rcases writable.exists_cons_ne layout level rest with
        ⟨first, later, written, other⟩
      have noBracket := other '[' (by simp) (by simp [opening?])
      have noBrace := other '\x7b' (by simp) (by simp [opening?])
      simp [written, noBracket, noBrace, formWithin, elementValues?]

theorem reads_form (reads : Reads Json.Distinct reader child) (budget : Nat)
    (form : Schema.Form) :
    Reads Json.Distinct (readForm budget reader form)
      (formWithin budget child form) := by
  cases form with
  | static =>
      intro layout level value gap rest writable distinct blank stops
      have read :=
        reads_string Json.Distinct layout level value gap rest writable
          distinct blank stops
      rw [readForm, toOption_map, read, formWithin]
      cases value.string? <;> rfl
  | multi => exact reads_sequence reads budget
  | tag => exact reads_element reads budget

theorem toOption_readKey (key : String) (rest : List Char) :
    (readKey (bodyOnto key rest)).toOption =
      (Schema.Form.named? key).map (·, rest) := by
  rw [readKey, readString_bodyOnto]
  simp only
  cases Schema.Form.named? key <;> rfl

/-- What is left behind the bracket that closes a node, if it comes next. -/
def nodeEnd? (text : List Char) : Option (List Char) :=
  match skipGaps text with
  | '\x7d' :: rest => some rest
  | _ => none

/--
Behind its opening bracket, a node is read from the first member of its object.
-/
theorem toOption_readObject_cons
    (reads : Reads Json.Distinct reader child) (budget : Nat) (layout : Layout)
    (level : Nat) (key : String) {value : Json} (writable : value.Writable)
    (distinct : value.Distinct) {members : List (String × Json)}
    {behind : List Char}
    (stops : Stops (layout.membersOnto level false members behind)) :
    (readObject budget reader
        (layout.membersOnto level true
          ((key, value) :: members) behind)).toOption =
      ((Schema.Form.named? key).bind (formWithin budget child · value)).bind
        fun node =>
        (nodeEnd? (layout.membersOnto level false members behind)).map
          (node, ·) := by
  rw [readObject, skipGaps_members]
  simp only [toOption_bind, toOption_readKey]
  cases Schema.Form.named? key with
  | none => rfl
  | some form =>
      have read :=
        reads_form reads budget form layout level value layout.spacing _
          writable distinct
          layout.spacing_isGap stops
      simp only [Option.map_some, Option.bind_some, readColon_colon,
        toOption_ok, read]
      cases formWithin budget child form value with
      | none => rfl
      | some node =>
          simp only [Option.map_some, Option.bind_some, nodeEnd?]
          split <;> simp_all

theorem reads_node (reads : Reads Json.Distinct reader child) (budget : Nat) :
    Reads Json.Distinct (readOver budget reader) (nodeOver budget child) := by
  intro layout level value gap rest writable distinct blank stops
  rw [readOver, skipGaps_onto writable layout level blank]
  cases value with
  | object members =>
      by_cases spent : budget = 0
      · rcases members with _ | ⟨⟨key, value⟩, _ | ⟨member, members⟩⟩ <;>
          simp [Layout.onto, nodeOver, spent]
      have closes := stops_closeOnto layout level rest false '\x7d' (by simp)
      simp only [Layout.onto, spent, if_false]
      rcases members with _ | ⟨⟨key, value⟩, members⟩
      · have bracket :=
          skipGaps_closeOnto layout level rest true (rfl : isGap '\x7d' = false)
        simp [readObject, Layout.membersOnto, bracket, nodeOver]
      rw [List.isEmpty_cons,
        toOption_readObject_cons reads _ layout (level + 1) key
          (writable.members (key, value) List.mem_cons_self)
          (distinct.members (key, value) List.mem_cons_self)
          (stops_membersOnto layout (level + 1) closes members)]
      rcases members with _ | ⟨member, members⟩
      · have bracket : nodeEnd? (layout.closeOnto level false ('\x7d' :: rest)) =
          some rest := by
          simp [nodeEnd?, skipGaps_closeOnto, isGap]
        simp only [Layout.membersOnto, bracket, nodeOver, spent, if_false]
        cases (Schema.Form.named? key).bind
          (formWithin (budget - 1) child · value) <;> rfl
      · -- A second member stands where the bracket should.
        have comma (later : List Char) : nodeEnd? (',' :: later) = none := by
          simp [nodeEnd?, skipGaps_cons, isGap]
        simp [Layout.membersOnto, Layout.commaOnto, comma, nodeOver]
  | string text =>
      rw [Layout.onto, stringOnto_eq]
      simp only [readKey, readString_bodyOnto, nodeOver]
      cases Schema.Form.named? text with
      | none => rfl
      | some form => cases form <;> rfl
  | _ =>
      rcases writable.exists_cons_ne layout level rest with
        ⟨first, later, written, other⟩
      have noBrace := other '\x7b' (by simp) (by simp [opening?])
      have noQuote := other '"' (by simp) (by simp [opening?])
      simp [written, noBrace, noQuote, nodeOver]

theorem reads_nothing :
    Reads Json.Distinct
      (fun rest => .error (.next .nestedTooDeep rest) : Reader Node)
      fun _ => none :=
  fun _ _ _ _ _ _ _ _ _ => rfl

end Readers

/-- Reading the text of a value gives the node of the value. -/
theorem reads_readWithin : (budget : Nat) →
    Reads Json.Distinct (readWithin budget) (nodeWithin budget)
  | 0 => reads_node reads_nothing 0
  | 1 => reads_node reads_nothing 1
  | budget + 2 => reads_node (reads_readWithin budget) (budget + 2)

/-! ## Reading whole texts -/

theorem toOption_mapError {ε δ α : Type} (change : ε → δ) (outcome : Except ε α) :
    (outcome.mapError change).toOption = outcome.toOption := by
  cases outcome <;> rfl

/-- A whole text is read as the node of its value, or not at all. -/
theorem toOption_ofJsonText (layout : Layout) {value : Json}
    (writable : value.Writable) (distinct : value.Distinct) :
    (ofJsonText (value.textIn layout)).toOption = nodeWithin 127 value := by
  have read :=
    reads_readWithin maxNesting layout 0 value [] [] writable distinct (by simp)
      stops_nil
  rw [List.nil_append] at read
  rw [ofJsonText, toOption_mapError, ← show maxNesting = 127 from rfl]
  simp only [textIn, String.toList_ofList, toOption_bind, read]
  cases nodeWithin maxNesting value <;> rfl

/-- The same for reading as JSON. -/
theorem readTemplate_textIn (layout : Layout) {value : Json}
    (writable : value.Writable) (distinct : value.Distinct) {format : SourceFormat}
    (resolved : format.resolve (value.textIn layout) = .json) :
    match nodeWithin 127 value with
    | some node => readTemplate (value.textIn layout) format = .ok node
    | none => ∃ report, readTemplate (value.textIn layout) format =
      .error (.json report) := by
  have read := toOption_ofJsonText layout writable distinct
  rw [readTemplate, resolved]
  cases outcome : ofJsonText (value.textIn layout) with
  | ok node =>
      rw [outcome] at read
      rw [← show some node = nodeWithin 127 value from read]
      rfl
  | error report =>
      rw [outcome] at read
      rw [← show none = nodeWithin 127 value from read]
      exact ⟨report, rfl⟩

theorem resolve_toJson (node : Node) (layout : Layout) {format : SourceFormat}
    (asked : format = .json ∨ format = .auto) :
    format.resolve (node.toJson.textIn layout) = .json := by
  rcases asked with rfl | rfl
  · rfl
  · have first : Text.firstVisible? (node.toJson.textIn layout) = some '\x7b' := by
      rw [Text.firstVisible?, textIn, String.toList_ofList]
      cases node <;> rfl
    rw [SourceFormat.resolve, SourceFormat.detect, first]
    rfl

/--
The serialized form of a node is read as that node, in both layouts and whether
JSON was asked for or is recognized, exactly if at most 127 brackets are open at
a time in it.  If there are more, the text is rejected as JSON.
-/
theorem readTemplate_toJson (node : Node) :
    node.toJson.nesting = node.nesting ∧
      ∀ text ∈ [node.toJson.compact, node.toJson.indented],
        ∀ format ∈ [SourceFormat.json, SourceFormat.auto],
          (node.nesting ≤ 127 → readTemplate text format = .ok node) ∧
            (127 < node.nesting →
              ∃ report, readTemplate text format = .error (.json report)) := by
  have read (layout : Layout) (format : SourceFormat)
      (asked : format ∈ [SourceFormat.json, SourceFormat.auto]) :
      (node.nesting ≤ 127 →
          readTemplate (node.toJson.textIn layout) format = .ok node) ∧
        (127 < node.nesting →
          ∃ report,
            readTemplate (node.toJson.textIn layout) format =
              .error (.json report)) := by
    have serial := isSerial_toJson node
    have outcome :=
      readTemplate_textIn layout serial.writable serial.distinct
        (resolve_toJson node layout (by simpa using asked))
    rw [nodeWithin_toJson] at outcome
    constructor
    · intro shallow
      rwa [if_pos shallow] at outcome
    · intro deep
      rwa [if_neg (by omega)] at outcome
  refine ⟨nesting_toJson node, fun text listed format asked => ?_⟩
  simp only [List.mem_cons, List.not_mem_nil, or_false] at listed
  rcases listed with rfl | rfl
  · rw [compact_eq_textIn]
    exact read .compact format asked
  · rw [indented_eq_textIn]
    exact read .indented format asked

/-- A node inside so many sequences. -/
def buried : (depth : Nat) → Node → Node
  | 0, node => node
  | depth + 1, node => .sequence [buried depth node]

theorem nesting_buried (depth : Nat) (node : Node) :
    (buried depth node).nesting = 2 * depth + node.nesting := by
  induction depth with
  | zero => simp [buried]
  | succ depth induction =>
      simp only [buried, nesting, nestingAll, induction, Nat.max_zero]
      omega

/-- A text is read inside 63 sequences, and inside 64 it is rejected. -/
theorem readTemplate_toJson_at_limit :
    readTemplate (buried 63 (.text "é")).toJson.indented .auto =
        .ok (buried 63 (.text "é")) ∧
      ∃ report,
        readTemplate (buried 64 (.text "é")).toJson.compact .auto =
          .error (.json report) := by
  constructor
  · refine ((readTemplate_toJson (buried 63 (.text "é"))).2 _
      (by simp) .auto (by simp)).1 ?_
    rw [nesting_buried]
    decide
  · refine ((readTemplate_toJson (buried 64 (.text "é"))).2 _
      (by simp) .auto (by simp)).2 ?_
    rw [nesting_buried]
    decide

/--
A value whose objects have distinct keys and that nests no deeper than 127 is
read from its compact text as the node that the grammar describes.  If it is no
template, the text is rejected as JSON.
-/
theorem readTemplate_eq_ok_iff_describes {value : Json} (writable : value.Writable)
    (distinct : value.Distinct) (shallow : value.nesting ≤ 127) :
    (∀ node, readTemplate value.compact .json = .ok node ↔ Describes value node) ∧
      ((∀ node, ¬ Describes value node) →
        ∃ report, readTemplate value.compact .json = .error (.json report)) := by
  have outcome :=
    readTemplate_textIn .compact writable distinct
      (rfl : SourceFormat.resolve .json _ = _)
  rw [← compact_eq_textIn] at outcome
  have described {node : Node} :
      nodeWithin 127 value = some node ↔ Describes value node :=
    nodeWithin_eq_some_iff 127 shallow
  cases found : nodeWithin 127 value with
  | some node =>
      rw [found] at outcome
      refine ⟨fun other => ?_, fun nothing =>
        absurd (described.mp found) (nothing node)⟩
      rw [outcome, ← described, found, Except.ok.injEq, Option.some.injEq]
  | none =>
      rw [found] at outcome
      refine ⟨fun other => ?_, fun _ => outcome⟩
      rcases outcome with ⟨report, rejected⟩
      rw [rejected, ← described, found]
      simp

/-- An element in a list, and one with a field that is passed over. -/
theorem readTemplate_eq_ok_iff_describes_box :
    readTemplate
        (Json.object
          [("tag", .object
            [("note", .array [.null, .number (.decimal "1.5")]),
              ("body", .object
                [("tag", .array [.string "label", .object [("on", .bool true)]])]),
              ("name", .string "box")])]).compact
        .json =
      .ok
        (.tag "box" .empty
          (.tag "label" (.ofList [("on", .bool true)]) emptyBody)) := by
  have spelled : (Number.decimal "1.5").Spelled :=
    ⟨[], ['1'], ['.', '5'], rfl, by simp, ⟨by simp, by simp, by simp⟩,
      ⟨['.', '5'], [], rfl, .inr ⟨['5'], rfl, by simp, by simp⟩, .inl rfl⟩,
      by simp⟩
  refine ((readTemplate_eq_ok_iff_describes ?_ ?_ (by decide)).1 _).mpr ?_
  · simp [Writable, Every, Json.parts, partsOfItems, partsOfMembers,
      Spelled, spelled]
  · simp [Json.Distinct, Every, Json.parts, partsOfItems,
      partsOfMembers, KeysDistinct]
  · exact .tag rfl rfl .missing rfl
      (.bareTag rfl rfl (.given [("on", .bool true)]) rfl)

end WidgetTemplate.Node
