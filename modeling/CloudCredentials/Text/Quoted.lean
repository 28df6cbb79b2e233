import CloudCredentials.Text.Printable

/-!
# Quoted text

The quoted form of a text: what stands between the quotes is escaped so that the form holds
printable characters only. Single quotes are used unless the text has a single quote and no
double quote.
-/

namespace CloudCredentials.Text

/-! ### Digits of an escape -/

def hexDigit (n : Nat) : Char := Nat.digitChar (n % 16)

def hexDigits : Nat → Nat → List Char
  | 0, _ => []
  | width + 1, n => hexDigits width (n / 16) ++ [hexDigit n]

theorem length_hexDigits (width n : Nat) : (hexDigits width n).length = width := by
  induction width generalizing n with
  | zero => rfl
  | succ width ih => simp [hexDigits, ih]

/-! ### The form of one character -/

def singleQuote : Char := '\x27'

def doubleQuote : Char := '\x22'

/-- The escape of a code point that cannot be shown: two, four or eight digits. -/
def escapeCode (n : Nat) : List Char :=
  if n < 0x100 then '\\' :: 'x' :: hexDigits 2 n
  else if n < 0x10000 then '\\' :: 'u' :: hexDigits 4 n
  else '\\' :: 'U' :: hexDigits 8 n

def quoteCode (q : Char) (n : Nat) : List Char :=
  if n = q.toNat then ['\\', q]
  else if n = 0x5C then ['\\', '\\']
  else if n = 10 then ['\\', 'n']
  else if n = 13 then ['\\', 'r']
  else if n = 9 then ['\\', 't']
  else if isPrintableCode n then [Char.ofNat n]
  else escapeCode n

/-! ### The form of a text -/

/-- The kind of quote for a text with the given code points. -/
def quoteFor (codes : List Nat) : Char :=
  if codes.contains 0x27 && !codes.contains 0x22 then doubleQuote else singleQuote

def quotedCodes (codes : List Nat) : List Char :=
  let q := quoteFor codes
  q :: codes.flatMap (quoteCode q) ++ [q]

def quoted (s : String) : String := String.ofList (quotedCodes (s.toList.map Char.toNat))

def quotedOption : Option String → String
  | none => "None"
  | some s => quoted s

/-! ### The form of bytes -/

def quoteByte (q : Char) (b : UInt8) : List Char :=
  let n := b.toNat
  if n = q.toNat then ['\\', q]
  else if n = 0x5C then ['\\', '\\']
  else if n = 10 then ['\\', 'n']
  else if n = 13 then ['\\', 'r']
  else if n = 9 then ['\\', 't']
  else if 0x20 ≤ n && n < 0x7F then [Char.ofNat n]
  else '\\' :: 'x' :: hexDigits 2 n

def quotedBytes (bytes : List UInt8) : List Char :=
  let q := quoteFor (bytes.map UInt8.toNat)
  'b' :: q :: bytes.flatMap (quoteByte q) ++ [q]

end CloudCredentials.Text
