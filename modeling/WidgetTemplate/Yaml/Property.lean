import WidgetTemplate.Text.Hex
import WidgetTemplate.Yaml.Cursor

/-!
# Anchors, references and tags

An anchor names a node and a reference stands for a named node.  A tag says
what kind of value a node is: it is written in full between angle brackets, or
as a handle and a suffix.  The characters of a tag are those of a URI, and a
percent sign stands in front of the two digits of an encoded byte.
-/

namespace WidgetTemplate.Yaml.Property

/-- Whether a character may follow the name of an anchor or a reference. -/
def endsName (rest : List Char) : Bool :=
  startsGap rest ||
    match rest.head? with
    | some char => "?:,]\x7d%@`".toList.contains char
    | none => true

/-- Reads the name of an anchor or a reference at its indicator. -/
def readName? (cursor : Cursor) : Option (String × Cursor) :=
  let (name, next) := (cursor.skip 1).span isNameChar
  if name.isEmpty || !endsName next.rest then
    none
  else
    some (String.ofList name, next)

/-- Whether a character may stand in a tag that is written with a handle. -/
def isTagChar (char : Char) : Bool :=
  isNameChar char || ";/?:@&=+$.%!~*'()".toList.contains char

/-- Whether a character may stand in a tag that is written in full. -/
def isUriChar (char : Char) : Bool :=
  isTagChar char || char == ',' || char == '[' || char == ']'

/-- A byte that is written with a percent sign and two digits. -/
def encodedByte? : List Char → Option Nat
  | '%' :: first :: second :: _ => Text.digitsValue? 16 [first, second]
  | _ => none

/-- How many bytes encode the character whose first byte is given. -/
def encodedLength? (byte : Nat) : Option Nat :=
  if byte < 0x80 then
    some 1
  else if 0xc0 ≤ byte ∧ byte < 0xe0 then
    some 2
  else if 0xe0 ≤ byte ∧ byte < 0xf0 then
    some 3
  else if 0xf0 ≤ byte ∧ byte < 0xf8 then
    some 4
  else
    none

/-- The payload of the first of a number of bytes. -/
def leadingBits (length byte : Nat) : Nat :=
  if length = 1 then byte else byte % Nat.pow 2 (7 - length)

/-- Appends the payloads of the bytes that continue a character. -/
def continueChar (code : Nat) (cursor : Cursor) : Nat → Option (Nat × Cursor)
  | 0 => some (code, cursor)
  | count + 1 => do
      let byte ← encodedByte? cursor.rest
      if byte / 0x40 = 2 then
        continueChar (code * 0x40 + byte % 0x40) (cursor.skip 3) count
      else
        none

/-- Reads a character that is written as encoded bytes. -/
def readEncoded? (cursor : Cursor) : Option (Char × Cursor) := do
  let byte ← encodedByte? cursor.rest
  let length ← encodedLength? byte
  let (code, next) ← continueChar (leadingBits length byte)
    (cursor.skip 3) (length - 1)
  return (Char.ofNat code, next)

/--
Reads the characters of a tag behind the characters `done`, the latest first.
A list longer than the text bounds the steps.
-/
def readChars (isAllowed : Char → Bool) (done : List Char) (cursor : Cursor) :
    (steps : List Char) → Option (List Char × Cursor)
  | [] => none
  | _ :: steps =>
      match cursor.rest with
      | '%' :: _ => do
          let (char, next) ← readEncoded? cursor
          readChars isAllowed (char :: done) next steps
      | char :: _ =>
          if isAllowed char then
            readChars isAllowed (char :: done) (cursor.skip 1) steps
          else
            some (done.reverse, cursor)
      | [] => some (done.reverse, cursor)

/-- Reads the characters of a tag, of which there may be none. -/
def readUri? (isAllowed : Char → Bool) (cursor : Cursor) :
    Option (List Char × Cursor) :=
  readChars isAllowed [] cursor (' ' :: cursor.rest)

/-- Reads the characters of a tag, of which there is at least one. -/
def readFullUri? (isAllowed : Char → Bool) (cursor : Cursor) :
    Option (String × Cursor) := do
  let (chars, next) ← readUri? isAllowed cursor
  if chars.isEmpty then none else some (String.ofList chars, next)

/-- Reads an exclamation mark, a name and, if there is one, a second mark. -/
def readHandle? (cursor : Cursor) : Option (List Char × Cursor) :=
  match cursor.rest with
  | '!' :: _ =>
      let (name, next) := (cursor.skip 1).span isNameChar
      if next.startsWith '!' then
        some ('!' :: name ++ ['!'], next.skip 1)
      else
        some ('!' :: name, next)
  | _ => none

/-- Whether a handle is enclosed in two marks. -/
def isEnclosed (handle : List Char) : Bool :=
  1 < handle.length && handle.getLast? == some '!'

/--
Reads the handle and the suffix of a tag.  A tag in full has an empty handle,
and so has the tag that is a single mark.
-/
def readTagParts? (cursor : Cursor) : Option (String × String × Cursor) :=
  match cursor.rest with
  | '!' :: '<' :: _ => do
      let (suffix, next) ← readFullUri? isUriChar (cursor.skip 2)
      if next.startsWith '>' then some ("", suffix, next.skip 1) else none
  | _ => do
      let (handle, next) ← readHandle? cursor
      if isEnclosed handle then
        let (suffix, next) ← readFullUri? isTagChar next
        return (String.ofList handle, suffix, next)
      else
        let (chars, next) ← readUri? isTagChar next
        let suffix := String.ofList (handle.drop 1 ++ chars)
        return if suffix.isEmpty then ("", "!", next) else ("!", suffix, next)

/-- Reads a tag; a gap follows, or, inside brackets, a comma. -/
def readTag? (inFlow : Bool) (cursor : Cursor) :
    Option (String × String × Cursor) := do
  let (handle, suffix, next) ← readTagParts? cursor
  if startsGap next.rest || (inFlow && next.startsWith ',') then
    return (handle, suffix, next)
  else
    none

end WidgetTemplate.Yaml.Property
