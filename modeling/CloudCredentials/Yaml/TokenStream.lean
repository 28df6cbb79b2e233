import CloudCredentials.Yaml.Token

/-!
# The stream of YAML tokens

Tokens are read when they are asked for. A token that may turn out to be the key of a mapping is
held back until the text after it has decided the matter; then the tokens that open the mapping
and mark the key are put in front of it. Indentation opens and closes block collections.
-/

namespace CloudCredentials.Yaml

/-! ### The state of a stream -/

/-- A token that may be a key: its number, where it starts, and whether it has to be a key because
it starts a line of a block mapping. -/
structure PendingKey where
  number : Nat
  required : Bool
  index : Nat
  line : Nat
  column : Nat
  deriving DecidableEq, Repr

/-- A stream: the cursor, the tokens read and not yet taken, the number of those taken, the depth
of flow collections, the indents of the open block collections, whether a key may start here, and
the tokens that may be keys by the depth at which they stand. -/
structure TokenStream where
  cursor : Cursor
  queue : List Token := []
  taken : Nat := 0
  ended : Bool := false
  depth : Int := 0
  indent : Int := -1
  outer : List Int := []
  keyAllowed : Bool := true
  pending : List (Int × PendingKey) := []

namespace TokenStream

def ofChars (cs : List Char) : TokenStream := { cursor := { rest := cs } }

def inFlow (s : TokenStream) : Bool := s.depth ≠ 0

def push (s : TokenStream) (t : Token) : TokenStream := { s with queue := s.queue ++ [t] }

def insert (s : TokenStream) (number : Nat) (t : Token) : TokenStream :=
  let place := number - s.taken
  { s with queue := s.queue.take place ++ t :: s.queue.drop place }

/-! ### Keys -/

/-- A pending key can no longer be one: its line has ended, or it is too long. -/
def isStale (s : TokenStream) (k : PendingKey) : Bool :=
  k.line ≠ s.cursor.line || 1024 < s.cursor.index - k.index

/-- Give up the pending keys that have become stale; one that has to be a key is a fault. -/
def dropStale (s : TokenStream) : Except Failure TokenStream :=
  if s.pending.any fun k => s.isStale k.2 && k.2.required then noToken
  else .ok { s with pending := s.pending.filter fun k => !s.isStale k.2 }

/-- Give up the pending key at the current depth; one that has to be a key is a fault. -/
def dropKey (s : TokenStream) : Except Failure TokenStream :=
  match s.pending.lookup s.depth with
  | none => .ok s
  | some k =>
    if k.required then noToken
    else .ok { s with pending := s.pending.filter (·.1 ≠ s.depth) }

/-- Note that the token that starts at the cursor may be a key. -/
def noteKey (s : TokenStream) : Except Failure TokenStream :=
  if !s.keyAllowed then .ok s
  else do
    let s ← s.dropKey
    let required := !s.inFlow && s.indent = s.cursor.column
    let k : PendingKey :=
      ⟨s.taken + s.queue.length, required, s.cursor.index, s.cursor.line, s.cursor.column⟩
    return { s with pending := s.pending ++ [(s.depth, k)] }

/-- The token of that number may still turn out to be a key. -/
def awaits (s : TokenStream) (number : Nat) : Bool :=
  match s.pending.map (·.2.number) with
  | [] => false
  | n :: rest => rest.foldl min n = number

/-! ### Indentation -/

/-- Close the block collections that are indented deeper than a column. -/
def closeBlocks (column : Int) : List Int → TokenStream → TokenStream
  | [], s => s
  | next :: rest, s =>
    if s.indent > column then
      closeBlocks column rest (({ s with indent := next, outer := rest }).push .blockEnd)
    else s

/-- Close block collections unless the cursor is inside a flow collection. -/
def unwind (s : TokenStream) (column : Int) : TokenStream :=
  if s.inFlow then s else closeBlocks column s.outer s

/-- Open a level of indentation if the column is deeper than the current one. -/
def openBlock (s : TokenStream) (column : Int) : Option TokenStream :=
  if s.indent < column then some { s with indent := column, outer := s.indent :: s.outer }
  else none

/-- Open a block collection at the cursor, if that is deeper, with the token for it. -/
def openAtCursor (s : TokenStream) (t : Token) : TokenStream :=
  match s.openBlock s.cursor.column with
  | some s => s.push t
  | none => s

/-! ### Reading tokens -/

/-- Move over blanks, comments and line ends. After a line end a key may start in a block. -/
def toNextToken : Nat → TokenStream → TokenStream
  | 0, s => s
  | fuel + 1, s =>
    let c := (s.cursor.skipWhile (· = ' ')).skipComment
    match c.lineBreak? with
    | some (_, c) =>
      toNextToken fuel { s with cursor := c, keyAllowed := s.keyAllowed || !s.inFlow }
    | none => { s with cursor := c }

def take (s : TokenStream) (n : Nat) (t : Token) : TokenStream :=
  { s with cursor := s.cursor.skip n }.push t

def readEnd (s : TokenStream) : Except Failure TokenStream := do
  let s ← (s.unwind (-1)).dropKey
  return { s with keyAllowed := false, pending := [], ended := true }.push .streamEnd

def readDirective (s : TokenStream) : Except Failure TokenStream := do
  let s ← (s.unwind (-1)).dropKey
  let (t, c) ← scanDirective s.cursor
  return { s with keyAllowed := false, cursor := c }.push t

def readDocumentMark (s : TokenStream) (t : Token) : Except Failure TokenStream := do
  let s ← (s.unwind (-1)).dropKey
  return { s with keyAllowed := false }.take 3 t

/-- The start of a flow collection, which may be a key as a whole. -/
def readFlowStart (s : TokenStream) (t : Token) : Except Failure TokenStream := do
  let s ← s.noteKey
  return { s with depth := s.depth + 1, keyAllowed := true }.take 1 t

def readFlowEnd (s : TokenStream) (t : Token) : Except Failure TokenStream := do
  let s ← s.dropKey
  return { s with depth := s.depth - 1, keyAllowed := false }.take 1 t

def readFlowEntry (s : TokenStream) : Except Failure TokenStream := do
  let s ← { s with keyAllowed := true }.dropKey
  return s.take 1 .flowEntry

def readBlockEntry (s : TokenStream) : Except Failure TokenStream := do
  let s ←
    if s.inFlow then pure s
    else if !s.keyAllowed then noToken
    else pure (s.openAtCursor .blockSequenceStart)
  let s ← { s with keyAllowed := true }.dropKey
  return s.take 1 .blockEntry

def readKey (s : TokenStream) : Except Failure TokenStream := do
  let s ←
    if s.inFlow then pure s
    else if !s.keyAllowed then noToken
    else pure (s.openAtCursor .blockMappingStart)
  let s ← { s with keyAllowed := !s.inFlow }.dropKey
  return s.take 1 .key

/-- Turn the pending key at the current depth into a key. -/
def settleKey (s : TokenStream) (k : PendingKey) : TokenStream :=
  let s := { s with pending := s.pending.filter (·.1 ≠ s.depth) }.insert k.number .key
  let s :=
    if s.inFlow then s
    else match s.openBlock k.column with
      | some s => s.insert k.number .blockMappingStart
      | none => s
  { s with keyAllowed := false }

/-- Decide what the colon at the cursor belongs to: to the pending key, or to a key that was marked
as one. -/
def settleValue (s : TokenStream) : Except Failure TokenStream :=
  match s.pending.lookup s.depth with
  | some k => .ok (s.settleKey k)
  | none =>
    if s.inFlow then ({ s with keyAllowed := false } : TokenStream).dropKey
    else if !s.keyAllowed then noToken
    else
      let opened := s.openAtCursor .blockMappingStart
      ({ opened with keyAllowed := true } : TokenStream).dropKey

def readValue (s : TokenStream) : Except Failure TokenStream := do
  let s ← s.settleValue
  return s.take 1 .value

/-- A token that may be a key and is read by a function of its own. -/
def readKeyLike (s : TokenStream) (scan : Cursor → Except Failure (Token × Cursor)) :
    Except Failure TokenStream := do
  let s ← s.noteKey
  let (t, c) ← scan s.cursor
  return { s with keyAllowed := false, cursor := c }.push t

def readBlockScalar (s : TokenStream) (folded : Bool) : Except Failure TokenStream := do
  let s ← { s with keyAllowed := true }.dropKey
  let (t, c) ← scanBlockScalar folded s.indent s.cursor
  return { s with cursor := c }.push t

def readPlain (s : TokenStream) : Except Failure TokenStream := do
  let s ← s.noteKey
  let (t, ended, c) := scanPlain s.inFlow s.indent s.cursor
  return { s with keyAllowed := ended, cursor := c }.push t

/-- The characters that have a meaning of their own at the start of a token. -/
def isIndicator (c : Char) : Bool :=
  "-?:,[]\x7b\x7d#&*!|>'\"%@\x60".toList.contains c

def startsPlain (s : TokenStream) : Bool :=
  let c := s.cursor.peek
  !(isBlankOrEnd c || isIndicator c) ||
    (!isBlankOrEnd (s.cursor.peekAt 1) && (c = '-' || (!s.inFlow && (c = '?' || c = ':'))))

def readToken (s : TokenStream) : Except Failure TokenStream :=
  let c := s.cursor
  let x := c.peek
  let parts := isBlankOrEnd (c.peekAt 1)
  let atStart := c.column = 0
  if x = endMark then s.readEnd
  else if x = '%' && atStart then s.readDirective
  else if atStart && c.atMark '-' then s.readDocumentMark .documentStart
  else if atStart && c.atMark '.' then s.readDocumentMark .documentEnd
  else if x = '[' then s.readFlowStart .flowSequenceStart
  else if x = '\x7b' then s.readFlowStart .flowMappingStart
  else if x = ']' then s.readFlowEnd .flowSequenceEnd
  else if x = '\x7d' then s.readFlowEnd .flowMappingEnd
  else if x = ',' then s.readFlowEntry
  else if x = '-' && parts then s.readBlockEntry
  else if x = '?' && (s.inFlow || parts) then s.readKey
  else if x = ':' && (s.inFlow || parts) then s.readValue
  else if x = '*' then s.readKeyLike fun c => (scanName c).map fun r => (.alias r.1, r.2)
  else if x = '&' then s.readKeyLike fun c => (scanName c).map fun r => (.anchor r.1, r.2)
  else if x = '!' then s.readKeyLike scanTag
  else if x = '|' && !s.inFlow then s.readBlockScalar false
  else if x = '>' && !s.inFlow then s.readBlockScalar true
  else if x = '\x27' || x = '\x22' then s.readKeyLike scanQuoted
  else if s.startsPlain then s.readPlain
  else noToken

def more (s : TokenStream) : Except Failure TokenStream := do
  let s := if s.cursor.index = 0 && s.cursor.peek = Cursor.orderMark then
    { s with cursor := s.cursor.forward } else s
  let s ← (toNextToken (s.cursor.rest.length + 1) s).dropStale
  (s.unwind s.cursor.column).readToken

/-! ### Taking tokens -/

/-- Read on until the first token is known; it is the first token of the queue then. -/
def settle : Nat → TokenStream → Except Failure TokenStream
  | 0, s => .ok s
  | fuel + 1, s =>
    if s.ended then .ok s
    else if s.queue.isEmpty then s.more.bind (settle fuel)
    else do
      let s ← s.dropStale
      if s.awaits s.taken then s.more.bind (settle fuel) else .ok s

/-- The first token, and the stream that begins with it. Past the end there is only the end. -/
def peek (s : TokenStream) : Except Failure (Token × TokenStream) := do
  let s ← s.settle (s.cursor.rest.length + 2)
  return (s.queue.headD .streamEnd, s)

/-- The stream after the first token, which has been looked at before. -/
def drop (s : TokenStream) : TokenStream :=
  { s with queue := s.queue.drop 1, taken := s.taken + 1 }

end TokenStream

end CloudCredentials.Yaml
