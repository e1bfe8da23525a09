import WidgetTemplate.Json.Collection
import WidgetTemplate.Json.Skip
import WidgetTemplate.Node.Basic

/-!
# Reading a template from JSON

A node is an object with one key.  An element is an object, whose fields may
stand in any order and whose unknown fields are passed over, or a list of the
same parts in order: name, attributes, body.  Attributes and body may be
missing.  Brackets may nest to a depth of 127; in fields that are passed over
they may nest to any depth.
-/

namespace WidgetTemplate

namespace AttributeValue

open Json

/-- Reads any value, and keeps it if it is an attribute value. -/
def readAny (budget : Nat) : Reader (Option AttributeValue) := fun text =>
  match skipGaps text with
  | [] => .error (.here .eofInValue [])
  | 'n' :: rest => (readWord "ull".toList rest).map (none, ·)
  | 't' :: rest => (readWord "rue".toList rest).map (some (.bool true), ·)
  | 'f' :: rest => (readWord "alse".toList rest).map (some (.bool false), ·)
  | '"' :: rest => (readString [] rest).map fun (value, rest) =>
      (some (.string value), rest)
  | '[' :: rest =>
      match budget with
      | 0 => .error (.next .nestedTooDeep ('[' :: rest))
      | inner + 1 => (readList (readAny inner) rest).map fun (_, rest) =>
          (none, rest)
  | '\x7b' :: rest =>
      match budget with
      | 0 => .error (.next .nestedTooDeep ('\x7b' :: rest))
      | inner + 1 =>
          let entry (_ : Unit) (text : List Char) := do
            let (_, rest) ← readString [] text
            let rest ← readColon rest
            let (_, rest) ← readAny inner rest
            return ((), rest)
          (closing closeObject (readEntries entry () rest)).map
            fun (_, rest) => (none, rest)
  | char :: rest =>
      if char == '-' || char.isDigit then
        (readNumber (char :: rest)).map fun (value, rest) =>
          match value with
          | .integer value => (ofJson? (.integer value), rest)
          | .float _ => (none, rest)
      else
        .error (.next .expectedValue (char :: rest))

/-- Reads the value of an attribute. -/
def read (budget : Nat) : Reader AttributeValue := fun text =>
  match readAny budget text with
  | .error failure => .error failure
  | .ok (some value, rest) => .ok (value, rest)
  | .ok (none, rest) => .error (.floating .noAttributeValue rest)

end AttributeValue

namespace Node

open Json

/-- Reads the attributes of an element; of equal names the last one counts. -/
def readAttributes (budget : Nat) : Reader Attributes := fun text =>
  match skipGaps text with
  | '\x7b' :: rest =>
      match budget with
      | 0 => .error (.next .nestedTooDeep ('\x7b' :: rest))
      | inner + 1 =>
          let entry (attributes : Attributes) (text : List Char) := do
            let (name, rest) ← readString [] text
            let rest ← readColon rest
            let (value, rest) ← AttributeValue.read inner rest
            return (attributes.insert name value, rest)
          closing closeObject (readEntries entry .empty rest)
  | rest => .error (unexpected "a map" rest)

/-- The fields of an element that have been read. -/
structure Fields where
  name : Option String
  attributes : Option Attributes
  body : Option Node

/-- No fields yet. -/
def Fields.none : Fields where
  name := .none
  attributes := .none
  body := .none

/-- The element of fields that were read up to a point of the text. -/
def Fields.element (fields : Fields) (rest : List Char) :
    Except Failure (Node × List Char) :=
  match fields.name with
  | .none => .error (.floating (.missingField .name) rest)
  | some name =>
      .ok
        (.tag name (fields.attributes.getD .empty) (fields.body.getD emptyBody),
          rest)

/-- Reads the value of a field, unless the field was read before. -/
def readField
    {α : Type}
    (field : Schema.Field)
    (held : Option α)
    (value : Reader α) :
    Reader α := fun text =>
  match held with
  | some _ => .error (.floating (.duplicateField field) text)
  | none =>
      match readColon text with
      | .error failure => .error failure
      | .ok rest => value rest

/-- Reads one field of an element behind the opening quote of its key. -/
def readEntry
    (budget : Nat)
    (body : Reader Node)
    (fields : Fields) :
    Reader Fields := fun text => do
  let (key, rest) ← readString [] text
  match Schema.Field.named key with
  | .name =>
      let (name, rest) ← readField .name fields.name readStringValue rest
      return ({ fields with name := some name }, rest)
  | .attributes =>
      let (attributes, rest) ←
        readField .attributes fields.attributes (readAttributes budget) rest
      return ({ fields with attributes := some attributes }, rest)
  | .body =>
      let (node, rest) ← readField .body fields.body body rest
      return ({ fields with body := some node }, rest)
  | .other =>
      let rest ← readColon rest
      let rest ← skipValue rest
      return (fields, rest)

/-- Reads an element written as an object, behind its opening bracket. -/
def readElementObject (budget : Nat) (body : Reader Node) :
    Reader Node := fun text =>
  closing closeObject do
    let (fields, rest) ←
      readEntries (readEntry budget body) .none text
    fields.element rest

/-- Reads an element written as a list, behind its opening bracket. -/
def readElementList (budget : Nat) (body : Reader Node) :
    Reader Node := fun text =>
  closing closeList do
    let (named, rest) ← nextItem true text
    if !named then
      throw (.floating (.invalidLength 0) rest)
    let (name, rest) ← readStringValue rest
    let (attributed, rest) ← nextItem false rest
    if !attributed then
      return (.tag name .empty emptyBody, rest)
    let (attributes, rest) ← readAttributes budget rest
    let (bodied, rest) ← nextItem false rest
    if !bodied then
      return (.tag name attributes emptyBody, rest)
    let (node, rest) ← body rest
    return (.tag name attributes node, rest)

/-- Reads the value that follows the key of a node. -/
def readForm
    (budget : Nat)
    (child : Reader Node)
    (form : Schema.Form) :
    Reader Node := fun text =>
  match form with
  | .static =>
      (readStringValue text).map fun (content, rest) => (.text content, rest)
  | .multi =>
      match skipGaps text with
      | '[' :: rest =>
          if budget = 0 then
            .error (.next .nestedTooDeep ('[' :: rest))
          else
            (readList child rest).map fun (children, rest) =>
              (.sequence children, rest)
      | rest => .error (unexpected "a sequence" rest)
  | .tag =>
      match skipGaps text with
      | '[' :: rest =>
          if budget = 0 then
            .error (.next .nestedTooDeep ('[' :: rest))
          else
            readElementList (budget - 1) child rest
      | '\x7b' :: rest =>
          if budget = 0 then
            .error (.next .nestedTooDeep ('\x7b' :: rest))
          else
            readElementObject (budget - 1) child rest
      | rest => .error (unexpected Schema.elementType rest)

/-- Reads the key of a node behind its opening quote. -/
def readKey : Reader Schema.Form := fun text =>
  match readString [] text with
  | .error failure => .error failure
  | .ok (key, rest) =>
      match Schema.Form.named? key with
      | some form => .ok (form, rest)
      | none => .error (.here (.unknownForm key) rest)

/-- Reads a node behind its opening bracket. -/
def readObject (budget : Nat) (child : Reader Node) : Reader Node := fun text => do
  match skipGaps text with
  | [] => throw (.here .eofInObject [])
  | '\x7d' :: rest => throw (.next .expectedValue ('\x7d' :: rest))
  | '"' :: rest =>
      let (form, rest) ← readKey rest
      let rest ← readColon rest
      let (node, rest) ← readForm budget child form rest
      match skipGaps rest with
      | [] => throw (.here .eofInObject [])
      | '\x7d' :: rest => return (node, rest)
      | rest => throw (.here .expectedValue rest)
  | rest => throw (.next .keyNotString rest)

/--
Reads a node whose nodes are read by `child`.  A string alone names a form but
has no value for it.
-/
def readOver (budget : Nat) (child : Reader Node) : Reader Node := fun text =>
  match skipGaps text with
  | [] => .error (.here .eofInValue [])
  | '\x7b' :: rest =>
      if budget = 0 then
        .error (.next .nestedTooDeep ('\x7b' :: rest))
      else
        readObject (budget - 1) child rest
  | '"' :: rest =>
      match readKey rest with
      | .error failure => .error failure
      | .ok (.tag, rest) =>
          .error (.floating (.invalidType .unitVariant "struct variant") rest)
      | .ok (_, rest) =>
          .error (.floating (.invalidType .unitVariant "newtype variant") rest)
  | rest => .error (.next .expectedValue rest)

/--
Reads a node inside which `budget` brackets may be open at a time.  Two
brackets open between a node and the nodes in it.
-/
def readWithin : (budget : Nat) → Reader Node
  | 0 => readOver 0 fun rest => .error (.next .nestedTooDeep rest)
  | 1 => readOver 1 fun rest => .error (.next .nestedTooDeep rest)
  | budget + 2 => readOver (budget + 2) (readWithin budget)

/-- The number of brackets that may be open at a time. -/
def maxNesting : Nat := 127

/-- The template that a JSON text is, or the report why it is none. -/
def ofJsonText (source : String) : Except String Node :=
  let chars := source.toList
  let outcome : Except Failure Node := do
    let (node, rest) ← readWithin maxNesting chars
    match skipGaps rest with
    | [] => return node
    | rest => throw (.next .trailingCharacters rest)
  outcome.mapError (·.message chars)

end Node

end WidgetTemplate
