import CloudCredentials.Data.Value
import CloudCredentials.Failure
import CloudCredentials.Number.Reading
import CloudCredentials.Text.LowerCase

/-!
# YAML scalars

The kind of value that a plain scalar stands for, decided by its text, and the value that a text
stands for when its kind is known.
-/

namespace CloudCredentials.Yaml

/-! ### Kinds -/

inductive Kind
  | null
  | bool
  | int
  | float
  | binary
  | timestamp
  | orderedMap
  | pairs
  | set
  | text
  | sequence
  | mapping
  | merge
  | default
  | other (tag : String)
  deriving DecidableEq, Repr

def standardTag : String := "tag:yaml.org,2002:"

def standardKinds : List (String × Kind) :=
  [("null", .null), ("bool", .bool), ("int", .int), ("float", .float), ("binary", .binary),
    ("timestamp", .timestamp), ("omap", .orderedMap), ("pairs", .pairs), ("set", .set),
    ("str", .text), ("seq", .sequence), ("map", .mapping), ("merge", .merge), ("value", .default)]

def Kind.ofTag (tag : String) : Kind :=
  if standardTag.toList.isPrefixOf tag.toList then
    (standardKinds.lookup (String.ofList (tag.toList.drop standardTag.length))).getD (.other tag)
  else .other tag

/-! ### Signs and digits -/

def unsigned (cs : List Char) : List Char :=
  match cs with
  | '-' :: rest | '+' :: rest => rest
  | _ => cs

def isDigitOrLow (c : Char) : Bool := c.isDigit || c = '_'

def isSome (p : Char → Bool) (cs : List Char) : Bool := !cs.isEmpty && cs.all p

/-- The text starts with a digit that satisfies a condition, and underscores and digits follow. -/
def isDigits (p : Char → Bool) (cs : List Char) : Bool :=
  match cs with
  | c :: rest => c.isDigit && p c && rest.all isDigitOrLow
  | [] => false

/-- A part of a number to the base sixty. -/
def isSixty (cs : List Char) : Bool :=
  match cs with
  | [c] => c.isDigit
  | [c, d] => '0' ≤ c && c ≤ '5' && d.isDigit
  | _ => false

/-- An exponent with its sign, or nothing. -/
def isExponent (cs : List Char) : Bool :=
  match cs with
  | [] => true
  | e :: sign :: digits =>
    (e = 'e' || e = 'E') && (sign = '-' || sign = '+') && isSome Char.isDigit digits
  | _ => false

/-! ### The kind of a plain scalar -/

def boolWords : List String :=
  ["yes", "Yes", "YES", "no", "No", "NO", "true", "True", "TRUE", "false", "False", "FALSE",
    "on", "On", "ON", "off", "Off", "OFF"]

def nullWords : List String := ["", "~", "null", "Null", "NULL"]

/-- The text is an integer: binary, octal, decimal, hexadecimal or to the base sixty. -/
def isInt (cs : List Char) : Bool :=
  let digits := unsigned cs
  let parts := digits.splitOn ':'
  match digits with
  | ['0'] => true
  | '0' :: 'b' :: rest => isSome (fun c => c = '0' || c = '1' || c = '_') rest
  | '0' :: 'x' :: rest =>
    isSome (fun c => c = '_' || ((Number.digitValue? c).any (· < 16))) rest
  | '0' :: rest => isSome (fun c => c = '_' || ('0' ≤ c && c ≤ '7')) rest
  | _ =>
    isDigits (· ≠ '0') digits ||
      (isDigits (· ≠ '0') (parts.headD []) && 1 < parts.length && (parts.drop 1).all isSixty)

def isPointed (cs : List Char) : Bool :=
  let whole := cs.takeWhile (· ≠ '.')
  match cs.dropWhile (· ≠ '.') with
  | _ :: rest =>
    let tail := rest.dropWhile isDigitOrLow
    let parts := (unsigned whole).splitOn ':'
    (isDigits (fun _ => true) (unsigned whole) && isExponent tail) ||
      (whole.isEmpty && isDigits (fun _ => true) (rest.takeWhile isDigitOrLow) &&
        isExponent tail) ||
      (isDigits (fun _ => true) (parts.headD []) && 1 < parts.length &&
        (parts.drop 1).all isSixty && tail.isEmpty)
  | [] => false

def isFloat (cs : List Char) : Bool :=
  isPointed cs || [".inf", ".Inf", ".INF"].contains (String.ofList (unsigned cs)) ||
    [".nan", ".NaN", ".NAN"].contains (String.ofList cs)

/-! ### Times -/

structure TimeParts where
  year : Nat
  month : Nat
  day : Nat
  clock : Option (Nat × Nat × Nat × List Char × Option (Bool × Nat × Nat))

/-- One or two digits in front, and what follows them. -/
def shortNumber? (cs : List Char) : Option (Nat × List Char) :=
  let digits := (cs.take 2).takeWhile Char.isDigit
  (Number.natural? 10 digits).map (·, cs.drop digits.length)

/-- Exactly `width` digits in front, and what follows them. -/
def fixedNumber? (width : Nat) (cs : List Char) : Option (Nat × List Char) :=
  let digits := (cs.take width).takeWhile Char.isDigit
  if digits.length = width then (Number.natural? 10 digits).map (·, cs.drop width) else none

def after? (x : Char) (cs : List Char) : Option (List Char) :=
  match cs with
  | c :: rest => if c = x then some rest else none
  | [] => none

def isGap (c : Char) : Bool := c = ' ' || c = '\t'

/-- The zone at the end of a time: its sign, hours and minutes, or nothing. -/
def zone? (cs : List Char) : Option (Option (Bool × Nat × Nat)) :=
  if cs.isEmpty then some none
  else match cs.dropWhile isGap with
    | ['Z'] => some (some (false, 0, 0))
    | sign :: rest =>
      if sign = '-' || sign = '+' then do
        let (hours, rest) ← shortNumber? rest
        if rest.isEmpty then some (some (sign = '-', hours, 0))
        else
          let rest ← after? ':' rest
          let (minutes, rest) ← fixedNumber? 2 rest
          if rest.isEmpty then some (some (sign = '-', hours, minutes)) else none
      else none
    | [] => none

def clock? (cs : List Char) : Option (Nat × Nat × Nat × List Char × Option (Bool × Nat × Nat)) := do
  let (hour, rest) ← shortNumber? cs
  let rest ← after? ':' rest
  let (minute, rest) ← fixedNumber? 2 rest
  let rest ← after? ':' rest
  let (second, rest) ← fixedNumber? 2 rest
  let (fraction, rest) := match rest with
    | '.' :: rest => (rest.takeWhile Char.isDigit, rest.dropWhile Char.isDigit)
    | rest => ([], rest)
  let zone ← zone? rest
  return (hour, minute, second, fraction, zone)

def clockStart? (cs : List Char) : Option (List Char) :=
  match cs with
  | 'T' :: rest | 't' :: rest => some rest
  | c :: rest => if isGap c then some (rest.dropWhile isGap) else none
  | [] => none

def timeParts? (cs : List Char) : Option TimeParts := do
  let (year, rest) ← fixedNumber? 4 cs
  let rest ← after? '-' rest
  let (month, rest) ← shortNumber? rest
  let rest ← after? '-' rest
  let (day, rest) ← shortNumber? rest
  if rest.isEmpty then return ⟨year, month, day, none⟩
  let clock ← (clockStart? rest).bind clock?
  return ⟨year, month, day, some clock⟩

/-- The text is a time: a date alone needs two digits for month and day. -/
def isTime (cs : List Char) : Bool :=
  match timeParts? cs with
  | some parts => parts.clock.isSome || cs.length = 10
  | none => false

def kindOfPlain (cs : List Char) : Kind :=
  let s := String.ofList cs
  if boolWords.contains s then .bool
  else if isFloat cs then .float
  else if isInt cs then .int
  else if s = "<<" then .merge
  else if nullWords.contains s then .null
  else if isTime cs then .timestamp
  else if s = "=" then .default
  else .text

/-! ### Values of known kind -/

def refuse {α : Type} (message : String) : Except Failure α := .error (.refused (.other message))

def readInt (base : Nat) (cs : List Char) : Except Failure Int :=
  let trimmed := Text.trim cs
  let digits := unsigned trimmed
  let digits := match base, digits with
    | 2, '0' :: 'b' :: rest | 2, '0' :: 'B' :: rest | 8, '0' :: 'o' :: rest
    | 8, '0' :: 'O' :: rest | 16, '0' :: 'x' :: rest | 16, '0' :: 'X' :: rest => rest
    | _, digits => digits
  match Number.natural? base digits with
  | none => refuse ("invalid literal for int() with base " ++ toString base ++ ": " ++
      Text.quoted (String.ofList cs))
  | some n =>
    if base = 10 && Number.longestInteger < digits.length then
      refuse ("Exceeds the limit (4300 digits) for integer string conversion: value has " ++
        toString digits.length ++
        " digits; use sys.set_int_max_str_digits() to increase the limit")
    else .ok (if trimmed.head? = some '-' then -(n : Int) else n)

/-- The number whose parts to the base sixty are given, the highest first. -/
def sixtyInt (parts : List Int) : Int := parts.foldl (fun n part => n * 60 + part) 0

def isNegative (cs : List Char) : Bool := cs.head? = some '-'

def intValue (cs : List Char) : Except Failure Value := do
  let cs := cs.filter (· ≠ '_')
  if cs.isEmpty then throw .noDigits
  let digits := unsigned cs
  let n ← match digits with
    | ['0'] => pure 0
    | '0' :: 'b' :: rest => readInt 2 rest
    | '0' :: 'x' :: rest => readInt 16 rest
    | '0' :: _ => readInt 8 digits
    | [] => throw .noDigits
    | _ =>
      if digits.contains ':' then (digits.splitOn ':').mapM (readInt 10) |>.map sixtyInt
      else readInt 10 digits
  return .int (if isNegative cs then -n else n)

def readFloat (cs : List Char) : Except Failure Float :=
  let trimmed := Text.trim cs
  let body := unsigned trimmed
  let whole := body.takeWhile Char.isDigit
  let rest := body.dropWhile Char.isDigit
  let (fraction, rest) := match rest with
    | '.' :: rest => (rest.takeWhile Char.isDigit, rest.dropWhile Char.isDigit)
    | rest => ([], rest)
  let (exponent, rest) := Number.exponentPart rest
  let magnitude? : Option Float :=
    if String.ofList body = "inf" || String.ofList body = "infinity" then some Number.infinity
    else if String.ofList body = "nan" then some Number.notANumber
    else if (whole.isEmpty && fraction.isEmpty) || !rest.isEmpty then none
    else some (Number.DecimalParts.mk whole fraction exponent).toFloat
  match magnitude? with
  | some x => .ok (if isNegative trimmed then -x else x)
  | none => refuse ("could not convert string to float: " ++ Text.quoted (String.ofList cs))

/-- The number whose parts to the base sixty are given, the highest first. -/
def sixtyFloat (parts : List Float) : Float :=
  (parts.reverse.foldl (fun (sum : Float × Float) part => (sum.1 + part * sum.2, sum.2 * 60.0))
    (0.0, 1.0)).1

def floatValue (cs : List Char) : Except Failure Value := do
  let cs := Text.lowerChars (cs.filter (· ≠ '_'))
  if cs.isEmpty then throw .noDigits
  let body := unsigned cs
  let x ←
    if String.ofList body = ".inf" then pure Number.infinity
    else if String.ofList body = ".nan" then pure Number.notANumber
    else if body.contains ':' then (body.splitOn ':').mapM readFloat |>.map sixtyFloat
    else readFloat body
  return .float (if isNegative cs then -x else x)

def boolValue (cs : List Char) : Except Failure Value :=
  let word := String.ofList (Text.lowerChars cs)
  if ["yes", "true", "on"].contains word then .ok (.bool true)
  else if ["no", "false", "off"].contains word then .ok (.bool false)
  else .error (.missingField word)

def fractionMicros (digits : List Char) : Nat :=
  (Number.digitsFrom? 10 0 ((digits ++ List.replicate 6 '0').take 6)).getD 0

/-- The offset of a zone in seconds, less than a day either way. -/
def zoneOffset (zone : Bool × Nat × Nat) : Except Failure Int :=
  let (negative, hours, minutes) := zone
  let seconds : Int := ((hours * 3600 + minutes * 60 : Nat) : Int)
  if seconds < 86400 then .ok (if negative then -seconds else seconds)
  else refuse ("offset must be a timedelta strictly between -timedelta(hours=24) and " ++
    "timedelta(hours=24)")

def timeValue (cs : List Char) : Except Failure Value :=
  match timeParts? cs with
  | none => .error .noPart
  | some parts =>
    let date : Except Failure Time.Date :=
      match Time.Date.checked parts.year parts.month parts.day with
      | .ok date => .ok date
      | .error .year => refuse ("year " ++ toString parts.year ++ " is out of range")
      | .error fault => refuse fault.rule
    match parts.clock with
    | none => date.map .date
    | some (hour, minute, second, fraction, zone) => do
      let offset ← match zone with
        | some zone => (zoneOffset zone).map some
        | none => pure none
      let date ← date
      let time : Time.TimeOfDay := ⟨hour, minute, second, fractionMicros fraction⟩
      match time.fault? with
      | some rule => refuse rule
      | none => return .time ⟨date.toDays * Time.day + time.toMicros, offset⟩

/-! ### Bytes -/

def sixBits? (c : Char) : Option Nat :=
  if 'A' ≤ c && c ≤ 'Z' then some (c.toNat - 65)
  else if 'a' ≤ c && c ≤ 'z' then some (c.toNat - 71)
  else if c.isDigit then some (c.toNat + 4)
  else if c = '+' then some 62
  else if c = '/' then some 63
  else none

/-- The bytes of groups of six bits: `place` groups of the current four have been read, `left`
holds the bits that are not yet in a byte, and `pads` counts equals signs. -/
def base64From : List Char → Nat → Nat → Nat → Option (List UInt8)
  | [], place, _, _ => if place = 0 then some [] else none
  | c :: rest, place, left, pads =>
    if c = '=' then
      if 2 ≤ place && 4 ≤ place + (pads + 1) then some [] else base64From rest place left (pads + 1)
    else match sixBits? c with
      | none => base64From rest place left pads
      | some v =>
        match place with
        | 0 => base64From rest 1 v 0
        | 1 => (base64From rest 2 (v % 16) 0).map (UInt8.ofNat (left * 4 + v / 16) :: ·)
        | 2 => (base64From rest 3 (v % 4) 0).map (UInt8.ofNat (left * 16 + v / 4) :: ·)
        | _ => (base64From rest 0 0 0).map (UInt8.ofNat (left * 64 + v) :: ·)

def binaryValue (cs : List Char) : Except Failure Value :=
  if cs.all fun c => c.toNat < 128 then
    match base64From cs 0 0 0 with
    | some bytes => .ok (.bytes bytes)
    | none => .error (.yaml .value)
  else .error (.yaml .value)

/-- The value that a text stands for when its kind is known; kinds of collections and unknown
kinds have no scalars. -/
def scalarValue (kind : Kind) (codes : List Nat) : Except Failure Value :=
  let cs := codes.map Char.ofNat
  match kind with
  | .null => .ok .null
  | .bool => boolValue cs
  | .int => intValue cs
  | .float => floatValue cs
  | .binary => binaryValue cs
  | .timestamp => timeValue cs
  | .text => .ok (.ofCodes codes)
  | _ => .error (.yaml .value)

end CloudCredentials.Yaml
