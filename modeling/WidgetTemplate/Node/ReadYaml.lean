import WidgetTemplate.Node.Basic
import WidgetTemplate.Yaml.Compose
import WidgetTemplate.Yaml.Scalar

/-!
# Reading a template from YAML

The forms of a node are those of JSON, as mappings with one key.  References
stand for the nodes they lead to; how often they are followed is limited by the
size of the document.  Collections may nest to a depth of 128.  A report names
the path to the innermost value that does not fit, and the place where it is
written.
-/

namespace WidgetTemplate

namespace Yaml

/-- Why a text is not read as a template. -/
inductive Failure where
  /-- The text is not YAML. -/
  | malformed
  /-- The text is YAML, and holds no template. -/
  | mismatch (report : String)
  deriving DecidableEq, Repr, Inhabited

/-- What is wrong with a document. -/
inductive Fault where
  | nestedTooDeep (mark : Mark)
  | repeatedTooOften
  /-- A value does not fit; its path and place are known once it is left. -/
  | misfit (report : String) (place : Option (String × Mark))

/-- The path of the root of a document. -/
def rootPath : String := "."

/-- The path of the value of a key. -/
def valuePath (path : String) (key : Tree) : String :=
  let around := if path = rootPath then "" else path ++ "."
  match key with
  | .scalar _ text _ => around ++ text
  | _ => around ++ "?"

/-- The path of an item of a sequence. -/
def itemPath (path : String) (position : Nat) : String :=
  path ++ "[" ++ toString position ++ "]"

namespace Fault

/-- The fault with a path and a place, unless it has them. -/
def placeAt (path : String) (mark : Mark) : Fault → Fault
  | .misfit report none => .misfit report (some (path, mark))
  | fault => fault

/-- A report with a place, unless the place is the start of the text. -/
def located (report : String) (mark : Mark) : String :=
  if mark.line = 0 ∧ mark.column = 0 then
    report
  else
    report ++ " at line " ++ toString (mark.line + 1) ++
      " column " ++ toString (mark.column + 1)

/-- The report of a fault. -/
def message : Fault → String
  | .nestedTooDeep mark => located "recursion limit exceeded" mark
  | .repeatedTooOften => "repetition limit exceeded"
  | .misfit report none => report
  | .misfit report (some (path, mark)) =>
      located (if path = rootPath then report else path ++ ": " ++ report) mark

end Fault

/-- What reading a document goes by. -/
structure Targets where
  /-- The nodes with an anchor, the last one to start first. -/
  nodes : List (Nat × Tree)
  /-- How often references may be followed. -/
  limit : Nat

/-- A step of reading, which counts the references that were followed. -/
abbrev Reading := StateT Nat (Except Fault)

namespace Reading

/-- Gives up with a report. -/
def refuse {α : Type} (report : String) : Reading α :=
  throw (.misfit report none)

/-- Gives up because another type was expected. -/
def refuseType {α : Type} (found : Found) (expected : String) : Reading α :=
  refuse (Schema.invalidType found.describe expected)

/-- The node that a node stands for. -/
def follow (targets : Targets) : Tree → Reading Tree
  | .reference mark anchor => do
      let count := (← get) + 1
      if targets.limit < count then
        throw .repeatedTooOften
      set count
      return (targets.nodes.lookup anchor).getD (.reference mark anchor)
  | tree => return tree

/-- Reads the node that a node stands for; its faults are placed there. -/
def reading
    {α : Type}
    (targets : Targets)
    (path : String)
    (tree : Tree)
    (read : Tree → Reading α) :
    Reading α := do
  let node ← follow targets tree
  try read node catch fault => throw (fault.placeAt path node.mark)

/-- Reads the inside of a collection, if it is not too deep. -/
def within {α : Type} (budget : Nat) (mark : Mark)
    (read : Reading α) : Reading α :=
  if budget = 0 then throw (.nestedTooDeep mark) else read

/-- The value of a scalar. -/
def valueOf (label : Label) (text : String) (isPlain : Bool) : Reading Found :=
  match Scalar.value label.tag text isPlain with
  | .ok found => return found
  | .error report => refuse report

/-- Gives up at a node that is of another type than the expected one. -/
def refuseNode {α : Type} (expected : String) : Tree → Reading α
  | .scalar label text isPlain => do
      refuseType (← valueOf label text isPlain) expected
  | .sequence _ _ => refuseType .sequence expected
  | .mapping _ _ => refuseType .mapping expected
  | .reference _ _ => refuseType .unit expected

/-- Whether a node has a tag that names no type. -/
def isForeign (label : Label) : Bool :=
  label.tag.any Scalar.isForeign

/-- Reads the text of a scalar, of whatever type. -/
def readText (targets : Targets) (expected path : String) (tree : Tree) :
    Reading String :=
  reading targets path tree fun
    | .scalar _ text _ => return text
    | .sequence _ _ => refuseType .sequence expected
    | .mapping _ _ => refuseType .mapping expected
    | .reference _ _ => refuseType .unit expected

/-- Reads the entries of a mapping one after the other. -/
def readEntries
    {σ : Type}
    (entry : σ → Tree → Tree → Reading σ)
    (state : σ) :
    List (Tree × Tree) → Reading σ
  | [] => return state
  | (key, value) :: rest => do
      readEntries entry (← entry state key value) rest

/-- Reads the items of a sequence one after the other. -/
def readItems
    {α : Type}
    (item : String → Tree → Reading α)
    (path : String)
    (position : Nat) :
    List Tree → Reading (List α)
  | [] => return []
  | tree :: rest => do
      let first ← item (itemPath path position) tree
      return first :: (← readItems item path (position + 1) rest)

end Reading

end Yaml

open Yaml

namespace AttributeValue

/-- The attribute value that a value of a scalar is. -/
def ofFound? : Found → Option AttributeValue
  | .bool value => some (.bool value)
  | .integer value =>
      if fitsInteger value then some (.integer (Int64.ofInt value)) else none
  | .string value => some (.string value)
  | _ => none

/-- What is expected where nothing is expected. -/
def anyType : String := "any value"

/-- Reads any node, and keeps it if it is an attribute value. -/
def readAnyYaml (targets : Targets) :
    (budget : Nat) → String → Tree → Reading (Option AttributeValue)
  | budget, path, tree =>
      Reading.reading targets path tree fun
        | .reference _ _ => return none
        | .scalar label text isPlain => do
            if Reading.isForeign label then
              Reading.refuseType .tagged anyType
            match ← Reading.valueOf label text isPlain with
            | .wideInteger value => Reading.refuseType (.wideInteger value) anyType
            | found => return ofFound? found
        | .sequence label items => do
            if Reading.isForeign label then
              Reading.refuseType .tagged anyType
            match budget with
            | 0 => throw (.nestedTooDeep label.mark)
            | inner + 1 =>
                let _ ← Reading.readItems (readAnyYaml targets inner) path 0 items
                return none
        | .mapping label entries => do
            if Reading.isForeign label then
              Reading.refuseType .tagged anyType
            match budget with
            | 0 => throw (.nestedTooDeep label.mark)
            | inner + 1 =>
                let entry (_ : Unit) (key value : Tree) : Reading Unit := do
                  let _ ← readAnyYaml targets inner path key
                  let _ ← readAnyYaml targets inner (valuePath path key) value
                Reading.readEntries entry () entries
                return none

end AttributeValue

namespace Node

/-- What is expected where attributes stand. -/
def attributesType : String := "a map"

/-- Whether a node is written as nothing. -/
def isAbsent : Tree → Bool
  | .scalar _ content isPlain => content.isEmpty && isPlain
  | _ => false

/-- Reads the attributes of an element; of equal names the last one counts. -/
def readYamlAttributes
    (targets : Targets)
    (budget : Nat)
    (path : String)
    (tree : Tree) :
    Reading Attributes :=
  let entry (attributes : Attributes) (key value : Tree) : Reading Attributes := do
    let name ← Reading.readText targets "a string" path key
    match ← AttributeValue.readAnyYaml targets (budget - 1)
      (valuePath path key) value with
    | some value => return attributes.insert name value
    | none => Reading.refuse Schema.noAttributeValue
  Reading.reading targets path tree fun node =>
    match node with
    | .mapping label entries =>
        Reading.within budget label.mark (Reading.readEntries entry .empty entries)
    | node =>
        if isAbsent node then
          return .empty
        else
          Reading.refuseNode attributesType node

/-- The fields of an element that have been read from YAML. -/
structure YamlFields where
  name : Option String
  attributes : Option Attributes
  body : Option Node

/-- No fields from YAML yet. -/
def YamlFields.none : YamlFields where
  name := .none
  attributes := .none
  body := .none

/-- The element of all fields. -/
def YamlFields.element (fields : YamlFields) : Reading Node :=
  match fields.name with
  | .none => Reading.refuse (Schema.missingField .name)
  | some name =>
      return .tag name (fields.attributes.getD .empty) (fields.body.getD emptyBody)

/-- Reads the value of a field, unless the field was read before. -/
def readYamlField
    {α : Type}
    (field : Schema.Field)
    (held : Option α)
    (value : Reading α) :
    Reading (Option α) :=
  match held with
  | some _ => Reading.refuse (Schema.duplicateField field)
  | none => some <$> value

/-- Reads an element inside of which nodes are read by `child`. -/
def readYamlElement
    (targets : Targets)
    (budget : Nat)
    (child : String → Tree → Reading Node)
    (path : String)
    (tree : Tree) :
    Reading Node :=
  let entry (fields : YamlFields) (key value : Tree) : Reading YamlFields := do
    let inner := valuePath path key
    match Schema.Field.named
      (← Reading.readText targets "field identifier" path key) with
    | .name =>
        let name ← readYamlField .name fields.name
          (Reading.readText targets "a string" inner value)
        return { fields with name }
    | .attributes =>
        let attributes ← readYamlField .attributes fields.attributes
          (readYamlAttributes targets (budget - 1) inner value)
        return { fields with attributes }
    | .body =>
        let body ← readYamlField .body fields.body (child inner value)
        return { fields with body }
    | .other => return fields
  Reading.reading targets path tree fun node =>
    match node with
    | .mapping label entries =>
        Reading.within budget label.mark do
          let fields ← Reading.readEntries entry .none entries
          fields.element
    | node =>
        if isAbsent node then
          YamlFields.none.element
        else
          Reading.refuseNode Schema.elementType node

/-- Reads the nodes of a sequence. -/
def readYamlSequence
    (targets : Targets)
    (budget : Nat)
    (child : String → Tree → Reading Node)
    (path : String)
    (tree : Tree) :
    Reading Node :=
  Reading.reading targets path tree fun node =>
    match node with
    | .sequence label items =>
        Reading.within budget label.mark do
          return .sequence (← Reading.readItems child path 0 items)
    | node =>
        if isAbsent node then
          return .sequence []
        else
          Reading.refuseNode "a sequence" node

/-- The form of node that a key names. -/
def yamlForm (key : String) : Reading Schema.Form :=
  match Schema.Form.named? key with
  | some form => return form
  | none => Reading.refuse (Schema.unknownForm key)

/-- Reads the key of a node. -/
def readYamlKey (targets : Targets) (path : String) (tree : Tree) :
    Reading Schema.Form :=
  Reading.reading targets path tree fun
    | .scalar _ content _ => yamlForm content
    | node => Reading.refuseNode "variant identifier" node

/--
Reads a node inside of which nodes are read by `child`.  The mapping that the
node is counts as one of the `budget` collections that may be open.
-/
def readYamlOver
    (targets : Targets)
    (budget : Nat)
    (child : String → Tree → Reading Node)
    (path : String)
    (tree : Tree) :
    Reading Node :=
  let form (key value : Tree) : Reading Node := do
    let inner := valuePath path key
    match ← readYamlKey targets path key with
    | .static => .text <$> Reading.readText targets "a string" inner value
    | .multi => readYamlSequence targets (budget - 1) child inner value
    | .tag => readYamlElement targets (budget - 1) child inner value
  let oneKey {α : Type} : Reading α :=
    Reading.refuse
      (Schema.invalidValue Found.mapping.describe "map with a single key")
  Reading.reading targets path tree fun
    | .reference _ _ => Reading.refuseType .unit Schema.nodeType
    | .scalar label content isPlain => do
        if Reading.isForeign label then
          Reading.refuseType .tagged Schema.nodeType
        match ← Reading.valueOf label content isPlain with
        | .string key =>
            match ← yamlForm key with
            | .tag => Reading.refuseType .bareForm "struct variant"
            | _ => Reading.refuseType .bareForm "newtype variant"
        | found => Reading.refuseType found Schema.nodeType
    | .sequence label _ => do
        if Reading.isForeign label then
          Reading.refuseType .tagged Schema.nodeType
        Reading.within budget label.mark
          (Reading.refuseType .sequence Schema.nodeType)
    | .mapping label entries => do
        if Reading.isForeign label then
          Reading.refuseType .tagged Schema.nodeType
        Reading.within budget label.mark do
          match entries with
          | [] => oneKey
          | (key, value) :: others =>
              let node ← form key value
              if others.isEmpty then return node else oneKey

/--
Reads a node inside of which `budget` collections may be open.  Two of them
are open between a node and the nodes in it.
-/
def readYamlWithin (targets : Targets) :
    (budget : Nat) → String → Tree → Reading Node
  | 0 => readYamlOver targets 0 fun _ tree => throw (.nestedTooDeep tree.mark)
  | 1 => readYamlOver targets 1 fun _ tree => throw (.nestedTooDeep tree.mark)
  | budget + 2 => readYamlOver targets (budget + 2) (readYamlWithin targets budget)

/-- The number of collections that may be open at a time. -/
def maxYamlNesting : Nat := 128

/-- How often references may be followed for each part of a document. -/
def maxRepetition : Nat := 100

/-- Reads the template that a document is. -/
def ofDocument (document : Yaml.Document) : Except Fault Node :=
  match document.root with
  | none =>
      .error
        ((Fault.misfit
          (Schema.invalidType Found.nothing.describe Schema.nodeType) none).placeAt
          rootPath document.stop)
  | some root =>
      let targets : Targets :=
        { nodes := root.targets.reverse
          limit := root.size * maxRepetition }
      (readYamlWithin targets maxYamlNesting rootPath root).run' 0

/-- The template that a YAML text is, or why it is none. -/
def ofYamlText (source : String) : Except Yaml.Failure Node :=
  match Yaml.Document.ofText? source with
  | none => .error .malformed
  | some document => (ofDocument document).mapError (.mismatch ·.message)

end Node

end WidgetTemplate
