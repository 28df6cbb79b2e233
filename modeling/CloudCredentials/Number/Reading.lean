/-!
# Reading numbers

The numbers that digits stand for, and the nearest binary floating-point number of a decimal.
-/

namespace CloudCredentials.Number

/-! ### Digits -/

/-- The value of a digit; letters are digits from ten on. -/
def digitValue? (c : Char) : Option Nat :=
  if c.isDigit then some (c.toNat - '0'.toNat)
  else if 'a' ≤ c && c ≤ 'z' then some (c.toNat - 'a'.toNat + 10)
  else if 'A' ≤ c && c ≤ 'Z' then some (c.toNat - 'A'.toNat + 10)
  else none

/-- The number that digits stand for in a base, on top of a number in front of them. -/
def digitsFrom? (base : Nat) : Nat → List Char → Option Nat
  | n, [] => some n
  | n, c :: rest =>
    match digitValue? c with
    | some d => if d < base then digitsFrom? base (n * base + d) rest else none
    | none => none

def natural? (base : Nat) (cs : List Char) : Option Nat :=
  if cs.isEmpty then none else digitsFrom? base 0 cs

/-- The number of decimal digits above which a text stands for no integer. -/
def longestInteger : Nat := 4300

/-! ### Decimals -/

def infinity : Float := 1.0 / 0.0

def notANumber : Float := 0.0 / 0.0

/-- The floating-point number nearest to `mantissa · 10 ^ exponent`. -/
def ofDecimal (mantissa : Nat) (exponent : Int) : Float :=
  let size : Int := (Nat.toDigits 10 mantissa).length + exponent
  if mantissa = 0 || size < -400 then 0.0
  else if 400 < size then infinity
  else Float.ofScientific mantissa (exponent < 0) exponent.natAbs

/-- The parts of a decimal: whole digits, digits after the point, and the exponent. -/
structure DecimalParts where
  whole : List Char
  fraction : List Char
  exponent : Int

def DecimalParts.toFloat (p : DecimalParts) : Float :=
  let mantissa := (digitsFrom? 10 0 (p.whole ++ p.fraction)).getD 0
  ofDecimal mantissa (p.exponent - p.fraction.length)

/-- An exponent: a letter, an optional sign and digits. Without all of them there is none, and the
text is left as it is. -/
def exponentPart (cs : List Char) : Int × List Char :=
  match cs with
  | e :: rest =>
    if e = 'e' || e = 'E' then
      let (negative, digits) := match rest with
        | '+' :: rest => (false, rest)
        | '-' :: rest => (true, rest)
        | rest => (false, rest)
      match natural? 10 (digits.takeWhile Char.isDigit) with
      | some n => (if negative then -(n : Int) else n, digits.dropWhile Char.isDigit)
      | none => (0, cs)
    else (0, cs)
  | [] => (0, cs)

end CloudCredentials.Number
