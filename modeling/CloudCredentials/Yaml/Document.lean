import CloudCredentials.Text.Utf8
import CloudCredentials.Yaml.Node

/-!
# YAML documents

The value that a document stands for. The tree of nodes is read layer by layer: a collection lies
in the layer of its parent's content, its own content in the next one. Of several faults the one
in the uppermost layer counts, and in a layer the first one.
-/

namespace CloudCredentials.Yaml

/-! ### Layers -/

/-- A result, or a fault and the layer in which it lies. -/
abbrev Layered (α : Type) := Except (Nat × Failure) α

namespace Layered

/-- Two results in order; of two faults the upper one counts, and the first one in a layer. -/
def both {α β : Type} : Layered α → Layered β → Layered (α × β)
  | .ok a, .ok b => .ok (a, b)
  | .ok _, .error fault => .error fault
  | .error fault, .ok _ => .error fault
  | .error first, .error second => .error (if second.1 < first.1 then second else first)

def all {α : Type} : List (Layered α) → Layered (List α)
  | [] => .ok []
  | a :: rest => (both a (all rest)).map fun r => r.1 :: r.2

def inLayer {α : Type} (layer : Nat) (result : Except Failure α) : Layered α :=
  result.mapError (layer, ·)

def noValue {α : Type} (layer : Nat) : Layered α := .error (layer, .yaml .value)

end Layered

/-! ### Scalars -/

mutual

/-- The text of a node: that of a scalar, or that of the default entry of a mapping. -/
def Node.content? : Node → Option (List Nat)
  | .scalar _ content => some content
  | .sequence .. => none
  | .mapping _ entries => defaultContent? entries

def defaultContent? : List (Node × Node) → Option (List Nat)
  | [] => none
  | (key, value) :: rest =>
    if key.kind = .default then value.content? else defaultContent? rest

end

def Kind.isSingle : Kind → Bool
  | .null | .bool | .int | .float | .binary | .timestamp | .text => true
  | _ => false

def Kind.isCollection : Kind → Bool
  | .sequence | .mapping | .set | .orderedMap | .pairs => true
  | _ => false

/-- The value of a node of a single kind. A time has to be written as a scalar. -/
def singleValue (n : Node) : Except Failure Value :=
  match n, n.content? with
  | _, none => .error (.yaml .value)
  | .mapping .timestamp _, some _ =>
    .error (.mismatch (.other "expected string or bytes-like object, got 'list'"))
  | _, some content => scalarValue n.kind content

/-! ### Merging -/

def plainKey : Node → Node
  | .scalar .default content => .scalar .text content
  | key => key

/-- The entries that an entry contributes: those in front of the mapping's own entries, and those
among them. An entry to be merged holds a mapping or a list of mappings, of which the first one
counts most. -/
def contribution? (flatten : List (Node × Node) → Option (List (Node × Node)))
    (entry : Node × Node) : Option (List (Node × Node) × List (Node × Node)) :=
  if entry.1.kind ≠ .merge then some ([], [(plainKey entry.1, entry.2)])
  else
    match entry.2 with
    | .mapping _ entries => (flatten entries).map (·, [])
    | .sequence _ items => do
      let parts ← items.mapM fun
        | .mapping _ entries => flatten entries
        | _ => none
      return (parts.reverse.flatten, [])
    | .scalar .. => none

/-- The entries of a mapping with those of the mappings that are merged into it. The fuel bounds
the depth of merging. -/
def flatEntries? : Nat → List (Node × Node) → Option (List (Node × Node))
  | 0, _ => none
  | fuel + 1, entries => do
    let parts ← entries.mapM (contribution? (flatEntries? fuel))
    return parts.flatMap Prod.fst ++ parts.flatMap Prod.snd

/-! ### Values -/

/-- The entries of a mapping, in their layer. A collection is no key. -/
def entryValues (valueOf : Node → Layered Value) (fuel layer : Nat) (n : Node) :
    Layered (List (Value × Value)) :=
  match n with
  | .mapping _ entries =>
    match flatEntries? fuel entries with
    | none => .noValue layer
    | some entries =>
      .all (entries.map fun entry =>
        let key := if entry.1.kind.isCollection then .noValue layer else valueOf entry.1
        .both key (valueOf entry.2))
  | _ => .noValue layer

/-- The pairs of a list of mappings of one entry each, in their layer. -/
def pairValues (valueOf : Node → Layered Value) (layer : Nat) (n : Node) : Layered (List Value) :=
  match n with
  | .sequence _ items =>
    .all (items.map fun
      | .mapping _ [(key, value)] =>
        (Layered.both (valueOf key) (valueOf value)).map fun r => .pair r.1 r.2
      | _ => .noValue layer)
  | _ => .noValue layer

/-- The value of a node in a layer. The fuel bounds the depth of the tree. -/
def Node.value : Nat → Nat → Node → Layered Value
  | 0, layer, _ => .noValue layer
  | fuel + 1, layer, n =>
    let inner := Node.value fuel (layer + 1)
    match n.kind with
    | .sequence =>
      match n with
      | .sequence _ items => (Layered.all (items.map inner)).map .list
      | _ => .noValue (layer + 1)
    | .mapping =>
      (entryValues inner fuel (layer + 1) n).map fun entries => .map (Mapping.ofEntries entries)
    | .set =>
      (entryValues inner fuel (layer + 1) n).map fun entries =>
        .set ((Mapping.ofEntries entries).map Prod.fst)
    | .orderedMap | .pairs => (pairValues inner (layer + 1) n).map .list
    | kind => if kind.isSingle then .inLayer layer (singleValue n) else .noValue layer

/-! ### Texts -/

/-- The number of bytes that are decoded at a time. -/
def pieceSize : Nat := 8192

def readChars (bytes : List UInt8) : Except Failure (List Char) := do
  let cs ← (Text.decodeUtf8Pieces pieceSize bytes).mapError Failure.encoding
  let cs := Text.unifyLineEnds cs
  if cs.all isAllowed then return cs else throw (.yaml .stream)

/-- The value that a text stands for; an empty text stands for nothing. -/
def read (bytes : List UInt8) : Except Failure Value := do
  let cs ← readChars bytes
  match ← readDocument cs with
  | none => return .null
  | some root => (root.value (cs.length + 4) 0).mapError Prod.snd

end CloudCredentials.Yaml
