import CloudCredentials.Yaml.Scalar
import CloudCredentials.Yaml.TokenStream

/-!
# YAML nodes

A document is a tree of nodes: scalars, sequences and mappings, each of a kind. The tree is read
from the stream of tokens. An anchor names a node, and an alias stands for the node of that name.
A text holds at most one document.
-/

namespace CloudCredentials.Yaml

/-! ### Nodes -/

inductive Node
  | scalar (kind : Kind) (content : List Nat)
  | sequence (kind : Kind) (items : List Node)
  | mapping (kind : Kind) (entries : List (Node × Node))

namespace Node

def kind : Node → Kind
  | .scalar kind _ | .sequence kind _ | .mapping kind _ => kind

def empty : Node := .scalar .null []

end Node

/-! ### Kinds by tag -/

/-- The kind of a scalar: its tag decides, or else its text when it is plain. The tag without a
name makes any scalar count as plain. -/
def scalarKind (tag : Option String) (content : List Nat) (plain : Bool) : Kind :=
  match tag with
  | none => if plain then kindOfPlain (content.map Char.ofNat) else .text
  | some "!" => kindOfPlain (content.map Char.ofNat)
  | some tag => .ofTag tag

/-- The kind of a collection: its tag decides, or else its shape. -/
def collectionKind (tag : Option String) (shape : Kind) : Kind :=
  match tag with
  | none | some "!" => shape
  | some tag => .ofTag tag

/-! ### The state of reading -/

/-- The addresses that handles stand for unless a directive says otherwise. -/
def standardHandles : List (String × String) := [("!", "!"), ("!!", standardTag)]

structure NodeReader where
  stream : TokenStream
  handles : List (String × String) := standardHandles
  anchors : List (String × Node) := []

abbrev Reading (α : Type) := StateT NodeReader (Except Failure) α

namespace Reading

def noNode {α : Type} : Reading α := throw (.yaml .grammar)

def peek : Reading Token := do
  let r ← get
  let (t, stream) ← r.stream.peek
  set { r with stream }
  return t

def drop : Reading Unit := modify fun r => { r with stream := r.stream.drop }

def skip (t : Token) : Reading Unit := do if (← peek) = t then drop else noNode

def aliased (name : String) : Reading Node := do
  match (← get).anchors.lookup name with
  | some node => return node
  | none => throw (.yaml .node)

/-- Give a node its name, which no other node has. -/
def claim (anchor : Option String) (node : Node) : Reading Unit := do
  match anchor with
  | none => return
  | some name =>
    if ((← get).anchors.lookup name).isSome then throw (.yaml .node)
    else modify fun r => { r with anchors := (name, node) :: r.anchors }

/-- Put the finished node in place of the one that its name stood for so far. -/
def settle (anchor : Option String) (node : Node) : Reading Node := do
  match anchor with
  | none => return node
  | some name =>
    modify fun r => { r with anchors := (name, node) :: r.anchors.filter (·.1 ≠ name) }
    return node

/-! ### Properties -/

def tagOf (handle : Option String) (suffix : String) : Reading String := do
  match handle with
  | none => return suffix
  | some handle =>
    match (← get).handles.lookup handle with
    | some start => return start ++ suffix
    | none => noNode

/-- The anchor and the tag in front of a node, in either order. -/
def properties : Reading (Option String × Option String) := do
  match ← peek with
  | .anchor name =>
    drop
    match ← peek with
    | .tag handle suffix => do
      drop
      return (some name, some (← tagOf handle suffix))
    | _ => return (some name, none)
  | .tag handle suffix =>
    drop
    match ← peek with
    | .anchor name => do
      drop
      return (some name, some (← tagOf handle suffix))
    | _ => return (none, some (← tagOf handle suffix))
  | _ => return (none, none)

/-! ### Shapes -/

/-- Where a node stands: in a flow collection, in a block, or as a part of an entry of a block
mapping, where a sequence need not be indented. -/
inductive Context
  | flow
  | block
  | entry
  deriving DecidableEq, Repr

inductive Shape
  | scalar (content : List Nat) (plain : Bool)
  | empty
  | blockSequence
  | flatSequence
  | blockMapping
  | flowSequence
  | flowMapping
  deriving DecidableEq, Repr

/-- The shape of the node that starts with a token. Only a node with properties may be empty. -/
def shape? (context : Context) (bare : Bool) : Token → Option Shape
  | .scalar content plain => some (.scalar content plain)
  | .flowSequenceStart => some .flowSequence
  | .flowMappingStart => some .flowMapping
  | t =>
    if t = .blockEntry && context = .entry then some .flatSequence
    else if t = .blockSequenceStart && context ≠ .flow then some .blockSequence
    else if t = .blockMappingStart && context ≠ .flow then some .blockMapping
    else if bare then none
    else some .empty

def outline (tag : Option String) : Shape → Node
  | .scalar content plain => .scalar (scalarKind tag content plain) content
  | .empty => .scalar (scalarKind tag [] true) []
  | .blockSequence | .flatSequence | .flowSequence =>
    .sequence (collectionKind tag .sequence) []
  | .blockMapping | .flowMapping => .mapping (collectionKind tag .mapping) []

/-! ### Tokens that end a part -/

def endsItem (t : Token) : Bool := t = .blockEntry || t = .blockEnd

def endsPart (t : Token) : Bool := t = .key || t = .value || t = .blockEnd

/-- The token ends an entry of a flow collection with the given closing token. -/
def endsFlow (close t : Token) : Bool := t = .flowEntry || t = close

def endsDocument : Token → Bool
  | .directive _ | .documentStart | .documentEnd | .streamEnd => true
  | _ => false

/-! ### Productions -/

mutual

def node : Nat → Context → Reading Node
  | 0, _ => noNode
  | fuel + 1, context => do
    match ← peek with
    | .alias name => do
      drop
      aliased name
    | _ => do
      let (anchor, tag) ← properties
      match shape? context (anchor.isNone && tag.isNone) (← peek) with
      | none => noNode
      | some shape => do
        claim anchor (outline tag shape)
        settle anchor (← content fuel tag shape)

/-- The node of a shape, with its content. -/
def content : Nat → Option String → Shape → Reading Node
  | 0, _, _ => noNode
  | fuel + 1, tag, shape =>
    match shape with
    | .scalar .. => do
      drop
      return outline tag shape
    | .empty => return outline tag shape
    | .blockSequence => do
      drop
      return .sequence (collectionKind tag .sequence) (← blockItems fuel)
    | .flatSequence => return .sequence (collectionKind tag .sequence) (← flatItems fuel)
    | .flowSequence => do
      drop
      return .sequence (collectionKind tag .sequence) (← flowItems fuel true)
    | .blockMapping => do
      drop
      return .mapping (collectionKind tag .mapping) (← blockEntries fuel)
    | .flowMapping => do
      drop
      return .mapping (collectionKind tag .mapping) (← flowEntries fuel true)

/-- A node, or the empty node where a part ends at once. -/
def nodeUnless : Nat → Context → (Token → Bool) → Reading Node
  | 0, _, _ => noNode
  | fuel + 1, context, stops => do
    if stops (← peek) then return .empty else node fuel context

/-- The value after a key; without a colon it is empty. -/
def valuePart : Nat → Context → (Token → Bool) → Reading Node
  | 0, _, _ => noNode
  | fuel + 1, context, stops => do
    if (← peek) = .value then
      drop
      nodeUnless fuel context stops
    else return .empty

def blockItems : Nat → Reading (List Node)
  | 0 => noNode
  | fuel + 1 => do
    if (← peek) = .blockEntry then
      drop
      let item ← nodeUnless fuel .block endsItem
      return item :: (← blockItems fuel)
    else
      skip .blockEnd
      return []

/-- The items of a block sequence that is not indented: it ends where no entry follows. -/
def flatItems : Nat → Reading (List Node)
  | 0 => noNode
  | fuel + 1 => do
    if (← peek) = .blockEntry then
      drop
      let item ← nodeUnless fuel .block fun t => endsItem t || endsPart t
      return item :: (← flatItems fuel)
    else return []

def blockEntries : Nat → Reading (List (Node × Node))
  | 0 => noNode
  | fuel + 1 => do
    if (← peek) = .key then
      drop
      let key ← nodeUnless fuel .entry endsPart
      let value ← valuePart fuel .entry endsPart
      return (key, value) :: (← blockEntries fuel)
    else
      skip .blockEnd
      return []

/-- The items of a flow sequence. An item with a key mark is a mapping of one entry. -/
def flowItems : Nat → Bool → Reading (List Node)
  | 0, _ => noNode
  | fuel + 1, first => do
    if (← peek) = .flowSequenceEnd then
      drop
      return []
    if !first then skip .flowEntry
    match ← peek with
    | .flowSequenceEnd => do
      drop
      return []
    | .key => do
      drop
      let stops := endsFlow .flowSequenceEnd
      let key ← nodeUnless fuel .flow fun t => t = .value || stops t
      let value ← valuePart fuel .flow stops
      return .mapping .mapping [(key, value)] :: (← flowItems fuel false)
    | _ => do
      let item ← node fuel .flow
      return item :: (← flowItems fuel false)

/-- The entries of a flow mapping. An entry without a key mark has no value. -/
def flowEntries : Nat → Bool → Reading (List (Node × Node))
  | 0, _ => noNode
  | fuel + 1, first => do
    if (← peek) = .flowMappingEnd then
      drop
      return []
    if !first then skip .flowEntry
    match ← peek with
    | .flowMappingEnd => do
      drop
      return []
    | .key => do
      drop
      let stops := endsFlow .flowMappingEnd
      let key ← nodeUnless fuel .flow fun t => t = .value || stops t
      let value ← valuePart fuel .flow stops
      return (key, value) :: (← flowEntries fuel false)
    | _ => do
      let key ← node fuel .flow
      return (key, .empty) :: (← flowEntries fuel false)

end

/-! ### Documents -/

/-- The handles that the directives in front of a document define. There may be one directive for
the version, which has to be the first major one, and one for each handle. -/
def directives : Nat → Bool → List (String × String) → Reading (List (String × String))
  | 0, _, handles => return handles
  | fuel + 1, versioned, handles => do
    match ← peek with
    | .directive d => do
      drop
      match d with
      | .version major =>
        if versioned || major ≠ 1 then noNode else directives fuel true handles
      | .tag handle start =>
        if (handles.lookup handle).isSome then noNode
        else directives fuel versioned (handles ++ [(handle, start)])
      | .other => directives fuel versioned handles
    | _ => return handles

def documentStart (fuel : Nat) : Reading Unit := do
  let handles ← directives fuel false []
  modify fun r => { r with handles := handles ++ standardHandles }
  skip .documentStart

def documentEnds : Nat → Reading Unit
  | 0 => return
  | fuel + 1 => do
    if (← peek) = .documentEnd then
      drop
      documentEnds fuel

def streamEnd (fuel : Nat) : Reading Unit := do
  documentEnds fuel
  if (← peek) ≠ .streamEnd then
    documentStart fuel
    throw (.yaml .node)

/-- The document of a text, if there is one. -/
def document (fuel : Nat) : Reading (Option Node) := do
  match ← peek with
  | .streamEnd => return none
  | .directive _ | .documentStart => do
    documentStart fuel
    let root ← nodeUnless fuel .block endsDocument
    streamEnd fuel
    return some root
  | _ => do
    let root ← node fuel .block
    streamEnd fuel
    return some root

end Reading

/-- The document that characters make, if there is one. -/
def readDocument (cs : List Char) : Except Failure (Option Node) :=
  ((Reading.document (8 * (cs.length + 4))).run { stream := .ofChars cs }).map Prod.fst

end CloudCredentials.Yaml
