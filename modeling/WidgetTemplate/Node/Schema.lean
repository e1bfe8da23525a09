/-!
# The words of a serialized template

A serialized node has one key, which says which form of node it is, and a
serialized element has up to three fields.  Reports name these words, and name
the types that were expected.
-/

namespace WidgetTemplate.Schema

/-- The forms of a node. -/
inductive Form where
  | static
  | multi
  | tag
  deriving DecidableEq, Repr, Inhabited

/-- The form that a key names. -/
def Form.named? : String → Option Form
  | "static" => some .static
  | "multi" => some .multi
  | "tag" => some .tag
  | _ => none

/-- The report of a key that names no form. -/
def unknownForm (key : String) : String :=
  "unknown variant `" ++ key ++ "`, expected one of `static`, `multi`, `tag`"

/-- The fields of an element; any other key is passed over. -/
inductive Field where
  | name
  | attributes
  | body
  | other
  deriving DecidableEq, Repr, Inhabited

/-- The field that a key names. -/
def Field.named : String → Field
  | "name" => .name
  | "attrs" => .attributes
  | "body" => .body
  | _ => .other

/-- The key of a field. -/
def Field.key : Field → String
  | .name => "name"
  | .attributes => "attrs"
  | .body => "body"
  | .other => ""

/-- The report of an element without a field it needs. -/
def missingField (field : Field) : String :=
  "missing field `" ++ field.key ++ "`"

/-- The report of an element with a field twice. -/
def duplicateField (field : Field) : String :=
  "duplicate field `" ++ field.key ++ "`"

/-- The report of a value that is no attribute value. -/
def noAttributeValue : String :=
  "data did not match any variant of untagged enum AttrValue"

/-- What is expected where a node stands. -/
def nodeType : String := "enum IrNode"

/-- What is expected where an element stands. -/
def elementType : String := "struct variant IrNode::Tag"

/-- What is expected where an element is written as a list. -/
def elementList : String := elementType ++ " with 3 elements"

/-- The report of a list that ends too early. -/
def invalidLength (length : Nat) : String :=
  "invalid length " ++ toString length ++ ", expected " ++ elementList

/-- The report of a value of another type than the expected one. -/
def invalidType (found expected : String) : String :=
  "invalid type: " ++ found ++ ", expected " ++ expected

/-- The report of a value that is not among the expected ones. -/
def invalidValue (found expected : String) : String :=
  "invalid value: " ++ found ++ ", expected " ++ expected

end WidgetTemplate.Schema
