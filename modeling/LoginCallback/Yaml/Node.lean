import LoginCallback.Yaml.Layout
import LoginCallback.Yaml.Resolution

/-!
# Nodes of YAML texts

The tree that the tokens of a text describe. Anchored nodes stand wherever an alias names them; an
alias inside its own anchor stands for nothing.
-/

namespace LoginCallback.Yaml

inductive Node where
  | scalar (tag : Tag) (text : List Char)
  | sequence (tag : Tag) (items : List Node)
  | mapping (tag : Tag) (entries : List (Node × Node))

def Node.tag : Node → Tag
  | .scalar t _ => t
  | .sequence t _ => t
  | .mapping t _ => t

/-- The node of an empty place. -/
def Node.empty : Node := .scalar .null []

/-- Tokens that are still to be read, the handles of tags, and the anchored nodes so far. -/
structure Composer where
  tokens : List Token
  handles : List (List Char × List Char) := []
  anchors : List (List Char × Node) := []

abbrev Composing := StateT Composer (Except Fault)

namespace Composing

def peek : Composing Token := do
  match (← get).tokens with
  | [] => return .streamEnd
  | .fault f :: _ => throw f
  | t :: _ => return t

def skip : Composing Unit := modify fun s => { s with tokens := s.tokens.tail }

/-- Whether the next token is one of these. -/
def meets (ts : List Token) : Composing Bool := return ts.contains (← peek)

/-- Takes a token if it is the next one. -/
def takeIf (t : Token) : Composing Bool := do
  let found ← meets [t]
  if found then skip
  return found

def expect (t : Token) : Composing Unit := do
  if !(← takeIf t) then throw .malformed

/-! ## Properties of nodes -/

/-- What may stand in front of a node: an anchor, and a tag written in full. -/
structure Properties where
  anchor : Option (List Char) := none
  tag : Option (List Char) := none

def takeAnchor : Composing (Option (List Char)) := do
  match ← peek with
  | .anchor name => do skip; return some name
  | _ => return none

/-- A tag, with its handle resolved. -/
def takeTag : Composing (Option (Option (List Char) × List Char)) := do
  match ← peek with
  | .tag handle suffix => do skip; return some (handle, suffix)
  | _ => return none

def fullTag : Option (List Char) × List Char → Composing (List Char)
  | (none, suffix) => return suffix
  | (some handle, suffix) => do
    match (← get).handles.lookup handle with
    | some start => return start ++ suffix
    | none => throw .malformed

def properties : Composing Properties := do
  let anchor ← takeAnchor
  let tag ← takeTag
  let anchor ← if anchor.isSome then pure anchor else takeAnchor
  match tag with
  | none => return { anchor }
  | some t => return { anchor, tag := some (← fullTag t) }

namespace Properties

/-- The tag that leaves it to the text what a node is. -/
def isOpen (p : Properties) : Bool := p.tag.isNone || p.tag = some ['!']

/-- The tag of a collection. -/
def collectionTag (p : Properties) (default : Tag) : Tag :=
  match p.tag with
  | some t => if p.isOpen then default else .ofName t
  | none => default

/-- The tag of a scalar: quotes make a text of it unless the tag leaves it open. -/
def scalarTag (p : Properties) (isPlain : Bool) (text : List Char) : Tag :=
  match p.tag with
  | some t => if p.isOpen then .ofText text else .ofName t
  | none => if isPlain then .ofText text else .text

/-- The name of the anchor is taken before the node is read. -/
def declare (p : Properties) : Composing Unit := do
  match p.anchor with
  | none => return
  | some name =>
    if ((← get).anchors.lookup name).isSome then throw .malformed
    modify fun s => { s with anchors := (name, .empty) :: s.anchors }

/-- Makes the node known under its anchor. -/
def anchored (p : Properties) (n : Node) : Composing Node := do
  match p.anchor with
  | none => return n
  | some name =>
    modify fun s => { s with anchors := (name, n) :: s.anchors }
    return n

end Properties

def ofAlias (name : List Char) : Composing Node := do
  match (← get).anchors.lookup name with
  | some n => return n
  | none => throw .malformed

/-! ## Nodes -/

/-- Where a node stands. -/
inductive Place where
  | flow
  | block
  /-- A key or a value of a block mapping, where the items of a sequence need no indentation. -/
  | entry
  deriving DecidableEq

mutual

/-- A node and what stands in front of it. -/
def node (place : Place) : Nat → Composing Node
  | 0 => throw .malformed
  | fuel + 1 => do
    match ← peek with
    | .alias name => do
      skip
      ofAlias name
    | _ => do
      let p ← properties
      match ← peek with
      | .scalar text isPlain => do
        skip
        p.declare
        p.anchored (.scalar (p.scalarTag isPlain text) text)
      | .flowSequenceStart => do
        skip
        p.declare
        p.anchored (.sequence (p.collectionTag .sequence) (← flowItems true fuel))
      | .flowMappingStart => do
        skip
        p.declare
        p.anchored (.mapping (p.collectionTag .mapping) (← flowEntries true fuel))
      | t => do
        if t = .blockEntry && place = .entry then
          p.declare
          p.anchored (.sequence (p.collectionTag .sequence) (← looseItems fuel))
        else if t = .blockSequenceStart && place != .flow then
          skip
          p.declare
          p.anchored (.sequence (p.collectionTag .sequence) (← blockItems fuel))
        else if t = .blockMappingStart && place != .flow then
          skip
          p.declare
          p.anchored (.mapping (p.collectionTag .mapping) (← blockEntries fuel))
        else if p.anchor.isSome || p.tag.isSome then
          p.declare
          p.anchored (.scalar (p.scalarTag true []) [])
        else throw .malformed

/-- A node, or nothing if one of these tokens follows. -/
def nodeUnless (ends : List Token) (place : Place) : Nat → Composing Node
  | 0 => throw .malformed
  | fuel + 1 => do
    if ← meets ends then return .empty
    node place fuel

/-- What stands behind a colon, if there is one. -/
def valueUnless (ends : List Token) (place : Place) : Nat → Composing Node
  | 0 => throw .malformed
  | fuel + 1 => do
    if ← takeIf .value then nodeUnless ends place fuel else return .empty

/-- The items of a sequence with an indentation of its own. -/
def blockItems : Nat → Composing (List Node)
  | 0 => throw .malformed
  | fuel + 1 => do
    if ← takeIf .blockEntry then
      let item ← nodeUnless [.blockEntry, .blockEnd] .block fuel
      return item :: (← blockItems fuel)
    expect .blockEnd
    return []

/-- The items of a sequence that is not indented. -/
def looseItems : Nat → Composing (List Node)
  | 0 => throw .malformed
  | fuel + 1 => do
    if ← takeIf .blockEntry then
      let item ← nodeUnless [.blockEntry, .key, .value, .blockEnd] .block fuel
      return item :: (← looseItems fuel)
    return []

def blockEntries : Nat → Composing (List (Node × Node))
  | 0 => throw .malformed
  | fuel + 1 => do
    if ← takeIf .key then
      let k ← nodeUnless [.key, .value, .blockEnd] .entry fuel
      let v ← valueUnless [.key, .value, .blockEnd] .entry fuel
      return (k, v) :: (← blockEntries fuel)
    expect .blockEnd
    return []

/-- The items of a sequence in brackets. A pair among them is a mapping of its own. -/
def flowItems (first : Bool) : Nat → Composing (List Node)
  | 0 => throw .malformed
  | fuel + 1 => do
    if ← takeIf .flowSequenceEnd then return []
    if !first then expect .flowEntry
    if ← takeIf .key then
      let k ← nodeUnless [.value, .flowEntry, .flowSequenceEnd] .flow fuel
      let v ← valueUnless [.flowEntry, .flowSequenceEnd] .flow fuel
      return .mapping .mapping [(k, v)] :: (← flowItems false fuel)
    if ← takeIf .flowSequenceEnd then return []
    let item ← node .flow fuel
    return item :: (← flowItems false fuel)

/-- The entries of a mapping in braces. A node without a colon is a key of nothing. -/
def flowEntries (first : Bool) : Nat → Composing (List (Node × Node))
  | 0 => throw .malformed
  | fuel + 1 => do
    if ← takeIf .flowMappingEnd then return []
    if !first then expect .flowEntry
    if ← takeIf .key then
      let k ← nodeUnless [.value, .flowEntry, .flowMappingEnd] .flow fuel
      let v ← valueUnless [.flowEntry, .flowMappingEnd] .flow fuel
      return (k, v) :: (← flowEntries false fuel)
    if ← takeIf .flowMappingEnd then return []
    let k ← node .flow fuel
    return (k, .empty) :: (← flowEntries false fuel)

end

/-! ## Documents -/

def defaultHandles : List (List Char × List Char) :=
  [(['!'], ['!']), (['!', '!'], Tag.scope.toList)]

/-- Directives, of which each may stand once. The version must be 1. -/
def directives (versioned : Bool) (handles : List (List Char × List Char)) :
    Nat → Composing (List (List Char × List Char))
  | 0 => throw .malformed
  | fuel + 1 => do
    match ← peek with
    | .directive (.version major _) => do
      if versioned || major != 1 then throw .malformed
      skip
      directives true handles fuel
    | .directive (.tagHandle handle start) => do
      if (handles.lookup handle).isSome then throw .malformed
      skip
      directives versioned ((handle, start) :: handles) fuel
    | .directive .other => do
      skip
      directives versioned handles fuel
    | _ => return handles ++ defaultHandles

def skipDocumentEnds : Nat → Composing Unit
  | 0 => return
  | fuel + 1 => do
    if ← takeIf .documentEnd then skipDocumentEnds fuel

/-- The content of a document that begins with directives or a mark. -/
def explicitDocument (fuel : Nat) : Composing Node := do
  let handles ← directives false [] fuel
  modify fun s => { s with handles }
  expect .documentStart
  match ← peek with
  | .directive _ => return .empty
  | t =>
    if [.documentStart, .documentEnd, .streamEnd].contains t then return .empty
    else node .block fuel

/-- The only document of a text. -/
def document : Composing (Option Node) := do
  let fuel := 4 * (← get).tokens.length + 8
  let found ← match ← peek with
    | .streamEnd => pure none
    | .directive _ => some <$> explicitDocument fuel
    | .documentStart => some <$> explicitDocument fuel
    | _ => do
      modify fun s => { s with handles := defaultHandles }
      some <$> node .block fuel
  skipDocumentEnds fuel
  if !(← meets [.streamEnd]) then
    let _ ← directives false [] fuel
    let _ ← peek
    throw .malformed
  return found

end Composing

/-- The tree of a text; none if the text is empty. -/
def Node.ofText? (text : List Char) : Except Fault (Option Node) := do
  let tokens := Token.ofText text
  let (n, _) ← Composing.document.run { tokens }
  return n

end LoginCallback.Yaml
