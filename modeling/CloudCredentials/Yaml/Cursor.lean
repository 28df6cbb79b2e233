/-!
# Positions in a YAML text

A cursor is what is left of a text together with its place: the number of characters before it,
the line and the column. The classes of characters that the grammar tells apart are defined here
too. Past the end of the text a cursor shows the null character, which no text contains.
-/

namespace CloudCredentials.Yaml

/-! ### Classes of characters -/

/-- The character that stands for the end of the text. -/
def endMark : Char := Char.ofNat 0

def isBreak (c : Char) : Bool :=
  c = '\n' || c.toNat = 0x85 || c.toNat = 0x2028 || c.toNat = 0x2029

def isBreakOrEnd (c : Char) : Bool := c = endMark || isBreak c

/-- A space, or the end of a line or of the text. -/
def isSpaceOrEnd (c : Char) : Bool := c = ' ' || isBreakOrEnd c

/-- A space or a tab, or the end of a line or of the text. -/
def isBlankOrEnd (c : Char) : Bool := c = '\t' || isSpaceOrEnd c

def isWordChar (c : Char) : Bool := c.isAlphanum || c = '-' || c = '_'

def isAllowed (c : Char) : Bool :=
  let n := c.toNat
  n = 9 || n = 10 || n = 13 || (0x20 ≤ n && n ≤ 0x7E) || n = 0x85 ||
    (0xA0 ≤ n && n ≤ 0xD7FF) || (0xE000 ≤ n && n ≤ 0xFFFD) || 0x10000 ≤ n

/-! ### Cursors -/

/-- What is left of a text, and where that is. -/
structure Cursor where
  rest : List Char
  index : Nat := 0
  line : Nat := 0
  column : Nat := 0
  deriving Repr

namespace Cursor

def peek (c : Cursor) : Char := c.rest.headD endMark

def peekAt (c : Cursor) (n : Nat) : Char := (c.rest.drop n).headD endMark

def ahead (c : Cursor) (n : Nat) : List Char := c.rest.take n

/-- The mark that a text may start with; it takes no column. -/
def orderMark : Char := Char.ofNat 0xFEFF

def forward (c : Cursor) : Cursor :=
  match c.rest with
  | [] => c
  | x :: rest =>
    if isBreak x then ⟨rest, c.index + 1, c.line + 1, 0⟩
    else if x = orderMark then ⟨rest, c.index + 1, c.line, c.column⟩
    else ⟨rest, c.index + 1, c.line, c.column + 1⟩

def skip (c : Cursor) : Nat → Cursor
  | 0 => c
  | n + 1 => c.forward.skip n

/-- The cursor after the characters of a class at the front of `cs`, which is what is left. -/
def skipFrom (p : Char → Bool) : List Char → Cursor → Cursor
  | [], c => c
  | x :: rest, c => if p x then skipFrom p rest c.forward else c

def skipWhile (c : Cursor) (p : Char → Bool) : Cursor := skipFrom p c.rest c

/-- The characters of a class in front, and the cursor after them. -/
def span (c : Cursor) (p : Char → Bool) : List Char × Cursor := (c.rest.takeWhile p, c.skipWhile p)

/-- The end of a line at the cursor, as it counts in a scalar, and the cursor after it. -/
def lineBreak? (c : Cursor) : Option (Char × Cursor) :=
  let x := c.peek
  if x = '\n' || x.toNat = 0x85 then some ('\n', c.forward)
  else if isBreak x then some (x, c.forward)
  else none

/-- The cursor after a comment, if there is one. -/
def skipComment (c : Cursor) : Cursor :=
  if c.peek = '#' then c.skipWhile (!isBreakOrEnd ·) else c

/-- A mark between documents is at the cursor: three equal characters and then a blank. -/
def atMark (c : Cursor) (mark : Char) : Bool :=
  c.ahead 3 = [mark, mark, mark] && isBlankOrEnd (c.peekAt 3)

def atDocumentMark (c : Cursor) : Bool := c.atMark '-' || c.atMark '.'

end Cursor

end CloudCredentials.Yaml
