import CloudCredentials.Failure
import CloudCredentials.Number.Reading
import CloudCredentials.Yaml.Cursor

/-!
# YAML tokens

The tokens of a YAML text, and the reading of those that take more than a character: directives,
names, tags and scalars. Scalars are lists of code points, since an escape can name half of a
surrogate pair.
-/

namespace CloudCredentials.Yaml

/-! ### Tokens -/

inductive Directive
  | version (major : Nat)
  | tag (handle start : String)
  | other
  deriving DecidableEq, Repr

inductive Token
  | directive (d : Directive)
  | documentStart
  | documentEnd
  | streamEnd
  | blockSequenceStart
  | blockMappingStart
  | blockEnd
  | flowSequenceStart
  | flowSequenceEnd
  | flowMappingStart
  | flowMappingEnd
  | flowEntry
  | blockEntry
  | key
  | value
  | alias (name : String)
  | anchor (name : String)
  | tag (handle : Option String) (suffix : String)
  | scalar (content : List Nat) (plain : Bool)
  deriving DecidableEq, Repr

def noToken {α : Type} : Except Failure α := .error (.yaml .token)

def codesOf (cs : List Char) : List Nat := cs.map Char.toNat

/-! ### Directives -/

def scanNumber (c : Cursor) : Except Failure (Nat × Cursor) :=
  let (digits, c) := c.span Char.isDigit
  match Number.natural? 10 digits with
  | some n => .ok (n, c)
  | none => noToken

def scanVersion (c : Cursor) : Except Failure (Nat × Cursor) := do
  let (major, c) ← scanNumber (c.skipWhile (· = ' '))
  if c.peek ≠ '.' then noToken
  else
    let (_, c) ← scanNumber c.forward
    if isSpaceOrEnd c.peek then .ok (major, c) else noToken

/-- The handle of a tag, between exclamation marks. -/
def scanHandle (c : Cursor) : Except Failure (String × Cursor) :=
  if c.peek ≠ '!' then noToken
  else if c.peekAt 1 = ' ' then .ok ("!", c.forward)
  else
    let word := c.forward.rest.takeWhile isWordChar
    if c.peekAt (word.length + 1) ≠ '!' then noToken
    else .ok (String.ofList ('!' :: word ++ ['!']), c.skip (word.length + 2))

def isAddressChar (c : Char) : Bool :=
  c.isAlphanum || "-;/?:@&=+$,_.!~*'()[]".toList.contains c

/-- The bytes of escapes in an address, two hexadecimal digits each. -/
def escapedBytes : Nat → Cursor → Option (List UInt8 × Cursor)
  | 0, _ => none
  | fuel + 1, c =>
    if c.peek ≠ '%' then some ([], c)
    else
      let digits := c.forward.ahead 2
      if digits.length < 2 then none
      else match Number.natural? 16 digits with
        | none => none
        | some n => (escapedBytes fuel (c.skip 3)).map fun r => (UInt8.ofNat n :: r.1, r.2)

def addressPieces : Nat → Cursor → Option (List Char × Cursor)
  | 0, c => some ([], c)
  | fuel + 1, c =>
    if isAddressChar c.peek then
      let (word, c) := c.span isAddressChar
      (addressPieces fuel c).map fun r => (word ++ r.1, r.2)
    else if c.peek = '%' then
      match escapedBytes (c.rest.length + 1) c with
      | none => none
      | some (bytes, c) =>
        match Text.decodeUtf8 bytes with
        | .error _ => none
        | .ok text => (addressPieces fuel c).map fun r => (text ++ r.1, r.2)
    else some ([], c)

def scanAddress (c : Cursor) : Except Failure (String × Cursor) :=
  match addressPieces (c.rest.length + 1) c with
  | none => noToken
  | some (text, after) =>
    if after.index = c.index then noToken else .ok (String.ofList text, after)

def scanTagDirective (c : Cursor) : Except Failure (Directive × Cursor) := do
  let (handle, c) ← scanHandle (c.skipWhile (· = ' '))
  if c.peek ≠ ' ' then noToken
  else
    let (start, c) ← scanAddress (c.skipWhile (· = ' '))
    if isSpaceOrEnd c.peek then .ok (.tag handle start, c) else noToken

def scanLineRest (c : Cursor) : Except Failure Cursor :=
  let c := (c.skipWhile (· = ' ')).skipComment
  if isBreakOrEnd c.peek then .ok ((c.lineBreak?.map Prod.snd).getD c) else noToken

def scanDirective (c : Cursor) : Except Failure (Token × Cursor) := do
  let (word, c) := c.forward.span isWordChar
  if word.isEmpty || !isSpaceOrEnd c.peek then noToken
  else
    let (d, c) ←
      if word = "YAML".toList then do
        let (major, c) ← scanVersion c
        pure (Directive.version major, c)
      else if word = "TAG".toList then scanTagDirective c
      else pure (Directive.other, c.skipWhile (!isBreakOrEnd ·))
    let c ← scanLineRest c
    .ok (.directive d, c)

/-! ### Names and tags -/

def scanName (c : Cursor) : Except Failure (String × Cursor) :=
  let (word, c) := c.forward.span isWordChar
  let follows := isBlankOrEnd c.peek || "?:,]\x7d%@\x60".toList.contains c.peek
  if word.isEmpty || !follows then noToken else .ok (String.ofList word, c)

def hasHandle (c : Cursor) : Bool :=
  (c.forward.rest.takeWhile (!isSpaceOrEnd ·)).contains '!'

def scanTagParts (c : Cursor) : Except Failure ((Option String × String) × Cursor) :=
  if c.peekAt 1 = '<' then do
    let (suffix, c) ← scanAddress (c.skip 2)
    if c.peek = '>' then .ok ((none, suffix), c.forward) else noToken
  else if isBlankOrEnd (c.peekAt 1) then .ok ((none, "!"), c.forward)
  else if hasHandle c then do
    let (handle, c) ← scanHandle c
    let (suffix, c) ← scanAddress c
    .ok ((some handle, suffix), c)
  else do
    let (suffix, c) ← scanAddress c.forward
    .ok ((some "!", suffix), c)

def scanTag (c : Cursor) : Except Failure (Token × Cursor) := do
  let ((handle, suffix), c) ← scanTagParts c
  if isSpaceOrEnd c.peek then .ok (.tag handle suffix, c) else noToken

/-! ### Block scalars -/

inductive Chomping
  | clip
  | strip
  | keep
  deriving DecidableEq, Repr

def chomping? (c : Char) : Option Chomping :=
  if c = '+' then some .keep else if c = '-' then some .strip else none

/-- The digit for the indent of a block scalar, which is not zero. -/
def scanIncrement (c : Cursor) : Except Failure (Option Nat × Cursor) :=
  if c.peek.isDigit then
    if c.peek = '0' then noToken else .ok (some (c.peek.toNat - '0'.toNat), c.forward)
  else .ok (none, c)

/-- The marks after the start of a block scalar, in either order. -/
def scanBlockHeader (c : Cursor) : Except Failure ((Chomping × Option Nat) × Cursor) :=
  let finish (chomping : Chomping) (increment : Option Nat) (c : Cursor) :
      Except Failure ((Chomping × Option Nat) × Cursor) :=
    if isSpaceOrEnd c.peek then .ok ((chomping, increment), c) else noToken
  match chomping? c.peek with
  | some chomping => do
    let (increment, c) ← scanIncrement c.forward
    finish chomping increment c
  | none => do
    let (increment, c) ← scanIncrement c
    match increment, chomping? c.peek with
    | some _, some chomping => finish chomping increment c.forward
    | _, _ => finish .clip increment c

/-- The empty lines before a block scalar, and the deepest indent among them. -/
def blockIndent : Nat → Cursor → Nat → List Char → List Char × Nat × Cursor
  | 0, c, deepest, breaks => (breaks.reverse, deepest, c)
  | fuel + 1, c, deepest, breaks =>
    if c.peek = ' ' then blockIndent fuel c.forward (max deepest c.forward.column) breaks
    else match c.lineBreak? with
      | some (x, c) => blockIndent fuel c deepest (x :: breaks)
      | none => (breaks.reverse, deepest, c)

def skipIndent (indent : Nat) : List Char → Cursor → Cursor
  | [], c => c
  | x :: rest, c => if c.column < indent && x = ' ' then skipIndent indent rest c.forward else c

def blockBreaks (indent : Nat) : Nat → Cursor → List Char → List Char × Cursor
  | 0, c, breaks => (breaks.reverse, c)
  | fuel + 1, c, breaks =>
    let c := skipIndent indent c.rest c
    match c.lineBreak? with
    | some (x, c) => blockBreaks indent fuel c (x :: breaks)
    | none => (breaks.reverse, c)

/-- A blank that keeps a folded line as it is. -/
def isFoldStop (c : Char) : Bool := c = ' ' || c = '\t'

/-- The lines of a block scalar: its text, its last line end, and the empty lines after it. -/
def blockLines (folded : Bool) (indent : Nat) :
    Nat → Cursor → List Char → List Char → List Char → List Char × List Char × List Char × Cursor
  | 0, c, text, lastBreak, breaks => (text, lastBreak, breaks, c)
  | fuel + 1, c, text, lastBreak, breaks =>
    if c.column = indent && c.peek ≠ endMark then
      let firm := !isFoldStop c.peek
      let (line, c) := c.span (!isBreakOrEnd ·)
      let text := text ++ breaks ++ line
      let (lastBreak, c) := match c.lineBreak? with
        | some (x, c) => ([x], c)
        | none => ([], c)
      let (breaks, c) := blockBreaks indent (c.rest.length + 1) c []
      if c.column = indent && c.peek ≠ endMark then
        let joint :=
          if folded && lastBreak = ['\n'] && firm && !isFoldStop c.peek then
            (if breaks.isEmpty then [' '] else [])
          else lastBreak
        blockLines folded indent fuel c (text ++ joint) lastBreak breaks
      else (text, lastBreak, breaks, c)
    else (text, lastBreak, breaks, c)

/-- A block scalar after its first character, inside a block with the given indent. -/
def scanBlockScalar (folded : Bool) (outer : Int) (c : Cursor) :
    Except Failure (Token × Cursor) := do
  let ((chomping, increment), c) ← scanBlockHeader c.forward
  let c ← scanLineRest c
  let least := (max 1 (outer + 1)).toNat
  let (breaks, indent, c) := match increment with
    | none =>
      let (breaks, deepest, c) := blockIndent (c.rest.length + 1) c 0 []
      (breaks, max least deepest, c)
    | some n =>
      let indent := least + n - 1
      let (breaks, c) := blockBreaks indent (c.rest.length + 1) c []
      (breaks, indent, c)
  let (text, lastBreak, breaks, c) := blockLines folded indent (c.rest.length + 1) c [] [] breaks
  let text := if chomping = .strip then text else text ++ lastBreak
  let text := if chomping = .keep then text ++ breaks else text
  .ok (.scalar (codesOf text) false, c)

/-! ### Quoted scalars -/

def escapeCode? (c : Char) : Option Nat :=
  match c with
  | '0' => some 0
  | 'a' => some 7
  | 'b' => some 8
  | 't' | '\t' => some 9
  | 'n' => some 10
  | 'v' => some 11
  | 'f' => some 12
  | 'r' => some 13
  | 'e' => some 27
  | ' ' => some 32
  | '\x22' => some 0x22
  | '\\' => some 0x5C
  | '/' => some 0x2F
  | 'N' => some 0x85
  | '_' => some 0xA0
  | 'L' => some 0x2028
  | 'P' => some 0x2029
  | _ => none

def escapeWidth? (c : Char) : Option Nat :=
  match c with
  | 'x' => some 2
  | 'u' => some 4
  | 'U' => some 8
  | _ => none

def scanEscapeCode (width : Nat) (c : Cursor) : Except Failure (Nat × Cursor) :=
  let digits := c.ahead width
  if digits.length < width then noToken
  else match Number.natural? 16 digits with
    | none => noToken
    | some n =>
      if 0x10FFFF < n then .error (.refused (.other "chr() arg not in range(0x110000)"))
      else .ok (n, c.skip width)

/-- Empty lines within a quoted scalar; no document may start or end there. -/
def quotedBreaks : Nat → Cursor → List Char → Except Failure (List Char × Cursor)
  | 0, c, breaks => .ok (breaks.reverse, c)
  | fuel + 1, c, breaks =>
    if c.atDocumentMark then noToken
    else
      let c := c.skipWhile fun x => x = ' ' || x = '\t'
      match c.lineBreak? with
      | some (x, c) => quotedBreaks fuel c (x :: breaks)
      | none => .ok (breaks.reverse, c)

def isQuotedPlain (c : Char) : Bool :=
  !(isBlankOrEnd c || c = '\x27' || c = '\x22' || c = '\\')

def quotedWord (double : Bool) : Nat → Cursor → List Nat → Except Failure (List Nat × Cursor)
  | 0, c, read => .ok (read, c)
  | fuel + 1, c, read =>
    let (word, c) := c.span isQuotedPlain
    let read := read ++ codesOf word
    let x := c.peek
    if !double && x = '\x27' && c.peekAt 1 = '\x27' then
      quotedWord double fuel (c.skip 2) (read ++ [0x27])
    else if (double && x = '\x27') || (!double && (x = '\x22' || x = '\\')) then
      quotedWord double fuel c.forward (read ++ [x.toNat])
    else if double && x = '\\' then
      let c := c.forward
      match escapeCode? c.peek, escapeWidth? c.peek with
      | some code, _ => quotedWord double fuel c.forward (read ++ [code])
      | none, some width => do
        let (code, c) ← scanEscapeCode width c.forward
        quotedWord double fuel c (read ++ [code])
      | none, none =>
        match c.lineBreak? with
        | some (_, c) => do
          let (breaks, c) ← quotedBreaks (c.rest.length + 1) c []
          quotedWord double fuel c (read ++ codesOf breaks)
        | none => noToken
    else .ok (read, c)

def quotedBlanks (c : Cursor) : Except Failure (List Char × Cursor) :=
  let (blanks, c) := c.span fun x => x = ' ' || x = '\t'
  if c.peek = endMark then noToken
  else match c.lineBreak? with
    | none => .ok (blanks, c)
    | some (x, c) => do
      let (breaks, c) ← quotedBreaks (c.rest.length + 1) c []
      let joint := if x ≠ '\n' then [x] else if breaks.isEmpty then [' '] else []
      .ok (joint ++ breaks, c)

def quotedParts (quote : Char) : Nat → Cursor → List Nat → Except Failure (List Nat × Cursor)
  | 0, _, _ => noToken
  | fuel + 1, c, read =>
    if c.peek = quote then .ok (read, c.forward)
    else do
      let (blanks, c) ← quotedBlanks c
      let (read, c) ← quotedWord (quote = '\x22') (c.rest.length + 1) c (read ++ codesOf blanks)
      quotedParts quote fuel c read

def scanQuoted (c : Cursor) : Except Failure (Token × Cursor) := do
  let quote := c.peek
  let (read, c) ← quotedWord (quote = '\x22') (c.rest.length + 1) c.forward []
  let (read, c) ← quotedParts quote (c.rest.length + 1) c read
  .ok (.scalar read false, c)

/-! ### Plain scalars -/

def isFlowStop (c : Char) : Bool := ",?[]\x7b\x7d".toList.contains c

/-- The characters that end a plain scalar after a colon in a flow collection. -/
def isFlowColonStop (c : Char) : Bool := ",[]\x7b\x7d".toList.contains c

/-- The part of a plain scalar without blanks, from what is left of the text. -/
def plainWord (inFlow : Bool) : List Char → List Char
  | [] => []
  | c :: rest =>
    let next := rest.headD endMark
    if isBlankOrEnd c || (c = ':' && (isBlankOrEnd next || (inFlow && isFlowColonStop next))) ||
        (inFlow && isFlowStop c) then []
    else c :: plainWord inFlow rest

/-- Empty lines within a plain scalar; none when a document starts or ends there. -/
def plainBreaks : Nat → Cursor → List Char → Option (List Char) × Cursor
  | 0, c, breaks => (some breaks.reverse, c)
  | fuel + 1, c, breaks =>
    if c.peek = ' ' then plainBreaks fuel c.forward breaks
    else match c.lineBreak? with
      | some (x, c) =>
        if c.atDocumentMark then (none, c) else plainBreaks fuel c (x :: breaks)
      | none => (some breaks.reverse, c)

/-- The blanks after a part of a plain scalar, as they count if another part follows; whether a
line ended among them; and the cursor after them. -/
def plainBlanks (c : Cursor) : List Char × Bool × Cursor :=
  let (blanks, c) := c.span (· = ' ')
  match c.lineBreak? with
  | none => (blanks, false, c)
  | some (x, c) =>
    if c.atDocumentMark then ([], true, c)
    else match plainBreaks (c.rest.length + 1) c [] with
      | (none, c) => ([], true, c)
      | (some breaks, c) =>
        let joint := if x ≠ '\n' then [x] else if breaks.isEmpty then [' '] else []
        (joint ++ breaks, true, c)

/-- The parts of a plain scalar, and whether a line ended after the last one. -/
def plainParts (inFlow : Bool) (indent : Int) :
    Nat → Cursor → List Char → List Char → Bool → List Char × Bool × Cursor
  | 0, c, text, _, ended => (text, ended, c)
  | fuel + 1, c, text, blanks, ended =>
    if c.peek = '#' then (text, ended, c)
    else
      let word := plainWord inFlow c.rest
      if word.isEmpty then (text, ended, c)
      else
        let text := text ++ blanks ++ word
        let (blanks, ended, c) := plainBlanks (c.skip word.length)
        if blanks.isEmpty || c.peek = '#' || (!inFlow && (c.column : Int) < indent) then
          (text, ended, c)
        else plainParts inFlow indent fuel c text blanks ended

/-- A plain scalar inside a block with the given indent, and whether a line ended after it. -/
def scanPlain (inFlow : Bool) (outer : Int) (c : Cursor) : Token × Bool × Cursor :=
  let (text, ended, c) := plainParts inFlow (outer + 1) (c.rest.length + 1) c [] [] false
  (.scalar (codesOf text) true, ended, c)

end CloudCredentials.Yaml
