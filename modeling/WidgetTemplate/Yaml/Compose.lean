import WidgetTemplate.Yaml.TokenStream
import WidgetTemplate.Yaml.Tree

/-!
# Documents from tokens

A text holds at most one document.  Where a node may be missing, an empty
scalar stands in for it.  An anchor has a number, which is the number of
different names that were in use before it; so a name that is used again may
share its number with a later name, and the later node is meant by both.
-/

namespace WidgetTemplate.Yaml

/-- How far a document has been composed. -/
structure Composing where
  /-- The tokens that are left. -/
  tokens : List Token
  /-- What the handles of tags stand for. -/
  handles : List (String × String)
  /-- The names of anchors so far, and their numbers. -/
  anchors : List (String × Nat)

/-- A step of composing a document; there is none where it is not YAML. -/
abbrev Compose := StateT Composing Option

namespace Compose

/-- The next token. -/
def peek : Compose Token := do
  match (← get).tokens with
  | [] => failure
  | token :: _ => return token

/-- Moves past the next token. -/
def advance : Compose Unit :=
  modify fun composing => { composing with tokens := composing.tokens.drop 1 }

/-- The number of a new anchor. -/
def addAnchor (name : String) : Compose Nat := do
  let composing ← get
  let number := composing.anchors.length
  let others := composing.anchors.filter (·.1 != name)
  set { composing with anchors := (name, number) :: others }
  return number

/-- A tag as it is written in full. -/
def fullTag (handle suffix : String) : Compose String := do
  if handle.isEmpty then
    return suffix
  match (← get).handles.lookup handle with
  | some expansion => return expansion ++ suffix
  | none => failure

/-- The properties of a node before their meaning is looked up. -/
structure Properties where
  anchor : Option String
  tag : Option (String × String)

/-- Reads an anchor, if there is one. -/
def readAnchor : Compose (Option String) := do
  match (← peek).lexeme with
  | .anchor name =>
      advance
      return some name
  | _ => return none

/-- Reads a tag, if there is one. -/
def readTag : Compose (Option (String × String)) := do
  match (← peek).lexeme with
  | .tag handle suffix =>
      advance
      return some (handle, suffix)
  | _ => return none

/-- Reads the properties of a node, in either order. -/
def readProperties : Compose Properties := do
  match ← readAnchor with
  | some name => return ⟨some name, ← readTag⟩
  | none =>
      match ← readTag with
      | some tag => return ⟨← readAnchor, some tag⟩
      | none => return ⟨none, none⟩

/-- The label of a node that starts at a place. -/
def labelOf (mark : Mark) (properties : Properties) : Compose Label := do
  let tag ← properties.tag.mapM fun (handle, suffix) => fullTag handle suffix
  let anchor ← properties.anchor.mapM addAnchor
  return { mark, tag, anchor }

/-- The scalar that stands in for a missing node. -/
def missing (mark : Mark) : Tree :=
  .scalar ⟨mark, none, none⟩ "" true

/-- Where a node may stand. -/
structure Position where
  /-- Outside of brackets. -/
  inBlock : Bool
  /-- Where the entries of a sequence need not be indented. -/
  beforeEntries : Bool

/-- Reads the key of an entry of a block behind its mark, or the value. -/
def readPart (readNode : Position → Compose Tree) (stop : Mark) :
    Compose Tree := do
  match (← peek).lexeme with
  | .key | .value | .blockEnd => return missing stop
  | _ => readNode ⟨true, true⟩

/-- Reads the value of an entry of a block, if there is one. -/
def readBlockValue (readNode : Position → Compose Tree) : Compose Tree := do
  let token ← peek
  match token.lexeme with
  | .value =>
      advance
      readPart readNode token.stop
  | _ => return missing token.start

/-- Reads a value in brackets, if there is one, up to a comma or a bracket. -/
def readFlowValue (readNode : Position → Compose Tree) (closing : Lexeme) :
    Compose Tree := do
  let token ← peek
  match token.lexeme with
  | .value =>
      advance
      let next ← peek
      if next.lexeme = .flowEntry ∨ next.lexeme = closing then
        return missing next.start
      else
        readNode ⟨false, false⟩
  | _ => return missing token.start

/--
Reads the only entry of a mapping without brackets of its own, behind the mark
of its key.  If the key is missing, the token in its place is passed over.
-/
def readSingleEntry (readNode : Position → Compose Tree) :
    Compose (Tree × Tree) := do
  let token ← peek
  let key ←
    match token.lexeme with
    | .value | .flowEntry | .flowSequenceEnd =>
        advance
        pure (missing token.stop)
    | _ => readNode ⟨false, false⟩
  let value ← readFlowValue readNode .flowSequenceEnd
  return (key, value)

/-- Reads the comma in front of an entry in brackets that is not the first one. -/
def readComma (isFirst : Bool) (closing : Lexeme) : Compose Unit := do
  let token ← peek
  if !isFirst && token.lexeme ≠ closing then
    if token.lexeme = .flowEntry then
      advance
    else
      failure

mutual

/--
Reads a node.  The number of steps is bounded, because no more than a few
steps pass between two tokens.
-/
def readNode : (steps : Nat) → Position → Compose Tree
  | 0, _ => failure
  | steps + 1, position => do
      let first ← peek
      match first.lexeme with
      | .reference name =>
          match (← get).anchors.lookup name with
          | none => failure
          | some number =>
              advance
              return .reference first.start number
      | _ =>
          let properties ← readProperties
          let label ← labelOf first.start properties
          let token ← peek
          match token.lexeme with
          | .blockEntry =>
              if position.beforeEntries then
                return .sequence label (← readLooseEntries steps)
              else
                readBare label properties
          | .scalar text isPlain =>
              advance
              return .scalar label text isPlain
          | .flowSequenceStart =>
              advance
              return .sequence label (← readFlowItems steps true)
          | .flowMappingStart =>
              advance
              return .mapping label (← readFlowEntries steps true)
          | .blockSequenceStart =>
              if position.inBlock then
                advance
                return .sequence label (← readBlockItems steps)
              else
                readBare label properties
          | .blockMappingStart =>
              if position.inBlock then
                advance
                return .mapping label (← readBlockEntries steps)
              else
                readBare label properties
          | _ => readBare label properties
where
  /-- The node that is nothing but its properties. -/
  readBare (label : Label) (properties : Properties) : Compose Tree :=
    if properties.anchor.isSome || properties.tag.isSome then
      return .scalar label "" true
    else
      failure

/-- Reads the entries of a sequence of a block. -/
def readBlockItems : (steps : Nat) → Compose (List Tree)
  | 0 => failure
  | steps + 1 => do
      let token ← peek
      match token.lexeme with
      | .blockEnd =>
          advance
          return []
      | .blockEntry =>
          advance
          let item ←
            match (← peek).lexeme with
            | .blockEntry | .blockEnd => pure (missing token.stop)
            | _ => readNode steps ⟨true, false⟩
          return item :: (← readBlockItems steps)
      | _ => failure

/-- Reads the entries of a sequence that is not indented. -/
def readLooseEntries : (steps : Nat) → Compose (List Tree)
  | 0 => failure
  | steps + 1 => do
      let token ← peek
      match token.lexeme with
      | .blockEntry =>
          advance
          let item ←
            match (← peek).lexeme with
            | .blockEntry | .key | .value | .blockEnd => pure (missing token.stop)
            | _ => readNode steps ⟨true, false⟩
          return item :: (← readLooseEntries steps)
      | _ => return []

/-- Reads the entries of a mapping of a block. -/
def readBlockEntries : (steps : Nat) → Compose (List (Tree × Tree))
  | 0 => failure
  | steps + 1 => do
      let token ← peek
      match token.lexeme with
      | .blockEnd =>
          advance
          return []
      | .key =>
          advance
          let key ← readPart (readNode steps) token.stop
          let value ← readBlockValue (readNode steps)
          return (key, value) :: (← readBlockEntries steps)
      | _ => failure

/-- Reads the items of a sequence in brackets. -/
def readFlowItems : (steps : Nat) → (isFirst : Bool) → Compose (List Tree)
  | 0, _ => failure
  | steps + 1, isFirst => do
      readComma isFirst .flowSequenceEnd
      let token ← peek
      match token.lexeme with
      | .flowSequenceEnd =>
          advance
          return []
      | .key =>
          advance
          let entry ← readSingleEntry (readNode steps)
          let item := Tree.mapping ⟨token.start, none, none⟩ [entry]
          return item :: (← readFlowItems steps false)
      | _ =>
          let item ← readNode steps ⟨false, false⟩
          return item :: (← readFlowItems steps false)

/-- Reads the entries of a mapping in brackets. -/
def readFlowEntries : (steps : Nat) → (isFirst : Bool) →
    Compose (List (Tree × Tree))
  | 0, _ => failure
  | steps + 1, isFirst => do
      readComma isFirst .flowMappingEnd
      let token ← peek
      match token.lexeme with
      | .flowMappingEnd =>
          advance
          return []
      | .key =>
          advance
          let next ← peek
          let key ←
            match next.lexeme with
            | .value | .flowEntry | .flowMappingEnd => pure (missing next.start)
            | _ => readNode steps ⟨false, false⟩
          let value ← readFlowValue (readNode steps) .flowMappingEnd
          return (key, value) :: (← readFlowEntries steps false)
      | _ =>
          let key ← readNode steps ⟨false, false⟩
          let value := missing (← peek).start
          return (key, value) :: (← readFlowEntries steps false)

end

/-- Whether a version of YAML is known. -/
def isKnownVersion (major minor : Nat) : Bool :=
  major == 1 && (minor == 1 || minor == 2)

/--
Reads the directives in front of a document; no version and no handle is given
twice.
-/
def readDirectives (hasVersion : Bool) (handles : List (String × String)) :
    (steps : List Token) → Compose (Bool × List (String × String))
  | [] => failure
  | _ :: steps => do
      match (← peek).lexeme with
      | .versionDirective major minor =>
          if hasVersion || !isKnownVersion major minor then
            failure
          else
            advance
            readDirectives true handles steps
      | .tagDirective handle expansion =>
          if handles.any (·.1 == handle) then
            failure
          else
            advance
            readDirectives hasVersion ((handle, expansion) :: handles) steps
      | _ => return (hasVersion, handles)

/-- The handles that need no directive. -/
def standardHandles : List (String × String) :=
  [("!", "!"), ("!!", "tag:yaml.org,2002:")]

/-- Reads the root of a document behind its divider, if there is one. -/
def readContent (steps : Nat) : Compose Tree := do
  let token ← peek
  match token.lexeme with
  | .versionDirective _ _ | .tagDirective _ _ | .documentStart
    | .documentEnd | .streamEnd =>
      return missing token.start
  | _ => readNode steps ⟨true, false⟩

/-- Reads the root of a document, with the directives and the divider before it. -/
def readRoot (steps : Nat) : Compose Tree := do
  let composing ← get
  let (hasVersion, handles) ← readDirectives false [] composing.tokens
  modify fun composing => { composing with handles := handles ++ standardHandles }
  match (← peek).lexeme with
  | .documentStart =>
      advance
      readContent steps
  | _ =>
      if hasVersion || !handles.isEmpty then
        failure
      else
        readNode steps ⟨true, false⟩

/-- Reads the only document of a text. -/
def readDocument (steps : Nat) : Compose Document := do
  let first ← peek
  match first.lexeme with
  | .streamEnd => return ⟨none, first.start⟩
  | _ =>
      let root ← readRoot steps
      modify fun composing =>
        { composing with
          tokens := composing.tokens.dropWhile (·.lexeme = .documentEnd) }
      let last ← peek
      if last.lexeme = .streamEnd then
        return ⟨some root, last.start⟩
      else
        failure

end Compose

/-- The document of a text, if it is YAML. -/
def Document.ofText? (source : String) : Option Document := do
  let tokens ← tokensOf? source.toList
  let start : Composing :=
    { tokens
      handles := []
      anchors := [] }
  let (document, _) ← (Compose.readDocument (4 * tokens.length + 4)).run start
  return document

end WidgetTemplate.Yaml
