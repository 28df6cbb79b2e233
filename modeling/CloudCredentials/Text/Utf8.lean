/-!
# UTF-8

Decoding of bytes, with the place and the reason of the first fault. A fault covers the longest
start of a character that the bytes could have had.
-/

namespace CloudCredentials.Text

/-! ### Faults -/

inductive Utf8Reason
  | invalidStart
  | invalidContinuation
  | endOfData
  deriving DecidableEq, Repr

/-- A fault: its first byte, the position of that byte, and how many bytes it covers. -/
structure Utf8Fault where
  byte : UInt8
  position : Nat
  width : Nat
  reason : Utf8Reason
  deriving DecidableEq, Repr

def Utf8Fault.shift (n : Nat) (f : Utf8Fault) : Utf8Fault := { f with position := f.position + n }

/-! ### One character -/

def isContinuation (b : UInt8) : Bool := 0x80 ≤ b && b ≤ 0xBF

def continuationBits (b : UInt8) : Nat := b.toNat % 64

/-- How many bytes a character has that starts with `b`; none when no character does. -/
def sequenceWidth (b : UInt8) : Option Nat :=
  if b < 0x80 then some 1
  else if 0xC2 ≤ b && b ≤ 0xDF then some 2
  else if 0xE0 ≤ b && b ≤ 0xEF then some 3
  else if 0xF0 ≤ b && b ≤ 0xF4 then some 4
  else none

/-- Whether `second` may follow the first byte `first`: overlong forms, surrogates and numbers
beyond Unicode are excluded here. -/
def allowsSecond (first second : UInt8) : Bool :=
  if first = 0xE0 then 0xA0 ≤ second && second ≤ 0xBF
  else if first = 0xED then 0x80 ≤ second && second ≤ 0x9F
  else if first = 0xF0 then 0x90 ≤ second && second ≤ 0xBF
  else if first = 0xF4 then 0x80 ≤ second && second ≤ 0x8F
  else isContinuation second

/-- The reading of the first character: the character and how many bytes it takes, or how many
bytes are at fault and why. -/
def decodeChar (first : UInt8) (rest : List UInt8) : Except (Nat × Utf8Reason) (Char × Nat) :=
  match sequenceWidth first, rest with
  | none, _ => .error (1, .invalidStart)
  | some 1, _ => .ok (Char.ofNat first.toNat, 1)
  | some _, [] => .error (1, .endOfData)
  | some width, second :: rest =>
    if !allowsSecond first second then .error (1, .invalidContinuation)
    else if width = 2 then
      .ok (Char.ofNat (first.toNat % 32 * 64 + continuationBits second), 2)
    else match rest with
      | [] => .error (2, .endOfData)
      | third :: rest =>
        if !isContinuation third then .error (2, .invalidContinuation)
        else if width = 3 then
          .ok (Char.ofNat ((first.toNat % 16 * 64 + continuationBits second) * 64 +
            continuationBits third), 3)
        else match rest with
          | [] => .error (3, .endOfData)
          | fourth :: _ =>
            if !isContinuation fourth then .error (3, .invalidContinuation)
            else .ok (Char.ofNat (((first.toNat % 8 * 64 + continuationBits second) * 64 +
              continuationBits third) * 64 + continuationBits fourth), 4)

/-! ### Whole texts -/

/-- Decoding that starts at a position, with the characters read so far in reverse; `skip` bytes
belong to a character already read. -/
def decodeFrom (position skip : Nat) (read : List Char) :
    List UInt8 → Except Utf8Fault (List Char)
  | [] => .ok read.reverse
  | b :: rest =>
    match skip with
    | skip + 1 => decodeFrom (position + 1) skip read rest
    | 0 => match decodeChar b rest with
      | .ok (c, width) => decodeFrom (position + 1) (width - 1) (c :: read) rest
      | .error (width, reason) => .error ⟨b, position, width, reason⟩

/-- The characters that the bytes encode, or the first fault. -/
def decodeUtf8 (bytes : List UInt8) : Except Utf8Fault (List Char) := decodeFrom 0 0 [] bytes

/-- The text that the bytes encode, when they are UTF-8. -/
def decodeUtf8? (bytes : List UInt8) : Option String :=
  match decodeUtf8 bytes with
  | .ok cs => some (String.ofList cs)
  | .error _ => none

/-! ### Texts in pieces -/

/-- Decoding of bytes that arrive in pieces of a size. The start of a character at the end of a
piece is carried over to the next one, and the end of the bytes is a piece of its own; the position
of a fault counts from the start of its piece. -/
def decodePieces (size : Nat) : Nat → List UInt8 → List UInt8 → Except Utf8Fault (List Char)
  | 0, _, _ => .ok []
  | fuel + 1, carried, rest =>
    if rest.isEmpty then decodeUtf8 carried
    else
      let piece := carried ++ rest.take size
      match decodeUtf8 piece with
      | .ok cs => (decodePieces size fuel [] (rest.drop size)).map (cs ++ ·)
      | .error f =>
        if f.reason = .endOfData then
          match decodeUtf8 (piece.take f.position) with
          | .ok cs =>
            (decodePieces size fuel (piece.drop f.position) (rest.drop size)).map (cs ++ ·)
          | .error f => .error f
        else .error f

/-- The characters that the bytes encode, or the first fault, when they arrive in pieces. -/
def decodeUtf8Pieces (size : Nat) (bytes : List UInt8) : Except Utf8Fault (List Char) :=
  decodePieces size (bytes.length + 1) [] bytes

/-! ### Line ends -/

/-- Carriage returns, alone or before a line feed, become line feeds. -/
def unifyLineEnds : List Char → List Char
  | '\r' :: '\n' :: rest => '\n' :: unifyLineEnds rest
  | '\r' :: rest => '\n' :: unifyLineEnds rest
  | c :: rest => c :: unifyLineEnds rest
  | [] => []

end CloudCredentials.Text
