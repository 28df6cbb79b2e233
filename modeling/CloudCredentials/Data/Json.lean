import CloudCredentials.Data.Value
import CloudCredentials.Number.Reading

/-!
# Values in JSON

The structured value that a JSON text stands for. Objects keep the order of their names; of a name
that occurs twice the last value counts. Numbers with a fraction or an exponent are floating-point
numbers, and the words for infinities and for no number are read as such.
-/

namespace CloudCredentials.Json

/-! ### Blanks and strings -/

def isBlank (c : Char) : Bool := c = ' ' || c = '\t' || c = '\n' || c = '\r'

def skip (cs : List Char) : List Char := cs.dropWhile isBlank

/-- The code unit of four hexadecimal digits, and what follows them. -/
def unit? (cs : List Char) : Option (Nat × List Char) :=
  let digits := cs.take 4
  if digits.length = 4 then
    (Number.natural? 16 digits).map (·, cs.drop 4)
  else none

def isHighSurrogate (n : Nat) : Bool := 0xD800 ≤ n && n ≤ 0xDBFF

def isLowSurrogate (n : Nat) : Bool := 0xDC00 ≤ n && n ≤ 0xDFFF

/-- The code point of a surrogate pair. -/
def pairCode (high low : Nat) : Nat := 0x10000 + (high - 0xD800) * 0x400 + (low - 0xDC00)

/-- The code point of an escape that is given by number, and what follows it; two escapes that make
a pair are one code point. -/
def numbered? (cs : List Char) : Option (Nat × List Char) := do
  let (high, rest) ← unit? cs
  if !isHighSurrogate high then return (high, rest)
  match rest with
  | '\\' :: 'u' :: more =>
    match unit? more with
    | some (low, after) =>
      if isLowSurrogate low then return (pairCode high low, after) else return (high, rest)
    | none => none
  | _ => return (high, rest)

def letterCode? (c : Char) : Option Nat :=
  match c with
  | '\x22' => some 0x22
  | '\\' => some 0x5C
  | '/' => some 0x2F
  | 'b' => some 8
  | 'f' => some 12
  | 'n' => some 10
  | 'r' => some 13
  | 't' => some 9
  | _ => none

/-- The code points of a string after its opening quote, and what follows its closing quote. -/
def string? : Nat → List Char → Option (List Nat × List Char)
  | 0, _ => none
  | _, [] => none
  | fuel + 1, c :: rest =>
    if c = '\x22' then some ([], rest)
    else if c = '\\' then
      match rest with
      | 'u' :: more => do
        let (code, after) ← numbered? more
        let (codes, after) ← string? fuel after
        return (code :: codes, after)
      | e :: more => do
        let code ← letterCode? e
        let (codes, after) ← string? fuel more
        return (code :: codes, after)
      | [] => none
    else if c.toNat < 0x20 then none
    else do
      let (codes, after) ← string? fuel rest
      return (c.toNat :: codes, after)

/-! ### Numbers and words -/

/-- The whole part of a number: no digit may follow a leading zero. -/
def whole? (cs : List Char) : Option (List Char × List Char) :=
  match cs with
  | '0' :: rest => some (['0'], rest)
  | _ =>
    let digits := cs.takeWhile Char.isDigit
    if digits.isEmpty then none else some (digits, cs.dropWhile Char.isDigit)

/-- The digits after a point; without any there is no fraction. -/
def fractionPart (cs : List Char) : List Char × List Char :=
  match cs with
  | '.' :: rest =>
    let digits := rest.takeWhile Char.isDigit
    if digits.isEmpty then ([], cs) else (digits, rest.dropWhile Char.isDigit)
  | _ => ([], cs)

/-- A number without its sign, and what follows it. -/
def magnitude? (negative : Bool) (cs : List Char) : Option (Value × List Char) := do
  let (digits, rest) ← whole? cs
  let (fraction, rest) := fractionPart rest
  let (exponent, after) := Number.exponentPart rest
  if fraction.isEmpty && after.length = rest.length then
    if Number.longestInteger < digits.length then none
    else do
      let n ← Number.natural? 10 digits
      return (.int (if negative then -(n : Int) else n), after)
  else
    let x := (Number.DecimalParts.mk digits fraction exponent).toFloat
    return (.float (if negative then -x else x), after)

def word? (word : String) (cs : List Char) : Option (List Char) :=
  if word.toList.isPrefixOf cs then some (cs.drop word.length) else none

/-- A word or a number, and what follows it. -/
def scalar? (cs : List Char) : Option (Value × List Char) :=
  ((word? "null" cs).map (.null, ·)) <|> ((word? "true" cs).map (.bool true, ·)) <|>
    ((word? "false" cs).map (.bool false, ·)) <|>
    ((word? "NaN" cs).map (.float Number.notANumber, ·)) <|>
    ((word? "Infinity" cs).map (.float Number.infinity, ·)) <|>
    ((word? "-Infinity" cs).map (.float (-Number.infinity), ·)) <|>
    match cs with
    | '-' :: rest => magnitude? true rest
    | _ => magnitude? false cs

/-! ### Values -/

mutual

/-- A value that starts at the first character, and what follows it. -/
def value? : Nat → List Char → Option (Value × List Char)
  | 0, _ => none
  | fuel + 1, cs =>
    match cs with
    | '\x22' :: rest => (string? (rest.length + 1) rest).map fun r => (Value.ofCodes r.1, r.2)
    | '[' :: rest =>
      match skip rest with
      | ']' :: after => some (.list [], after)
      | rest => (items? fuel rest).map fun r => (.list r.1, r.2)
    | '\x7b' :: rest =>
      match skip rest with
      | '\x7d' :: after => some (.map [], after)
      | rest => (members? fuel rest).map fun r => (.map (Mapping.ofEntries r.1), r.2)
    | cs => scalar? cs

def items? : Nat → List Char → Option (List Value × List Char)
  | 0, _ => none
  | fuel + 1, cs =>
    match value? fuel cs with
    | none => none
    | some (v, rest) =>
      match skip rest with
      | ']' :: after => some ([v], after)
      | ',' :: more => (items? fuel (skip more)).map fun r => (v :: r.1, r.2)
      | _ => none

def members? : Nat → List Char → Option (List (Value × Value) × List Char)
  | 0, _ => none
  | fuel + 1, cs =>
    match cs with
    | '\x22' :: rest =>
      match string? (rest.length + 1) rest with
      | none => none
      | some (codes, rest) =>
        match skip rest with
        | ':' :: rest =>
          match value? fuel (skip rest) with
          | none => none
          | some (v, rest) =>
            let entry := (Value.ofCodes codes, v)
            match skip rest with
            | '\x7d' :: after => some ([entry], after)
            | ',' :: more => (members? fuel (skip more)).map fun r => (entry :: r.1, r.2)
            | _ => none
        | _ => none
    | _ => none

end

def read? (text : String) : Option Value :=
  let cs := skip text.toList
  match value? (cs.length + 1) cs with
  | some (v, rest) => if (skip rest).isEmpty then some v else none
  | none => none

end CloudCredentials.Json
