/-!
# The shortest text of a number

A binary floating-point number stands for an interval of reals: those that round to it. Its
shortest text is the decimal with the fewest digits in that interval; of the two candidates with
that many digits the nearer one is taken, and a tie goes to the even one. All comparisons are
made between natural numbers.
-/

namespace CloudCredentials.Number

/-! ### Binary parts -/

/-- A positive number `mantissa · 2 ^ exponent`; at the low end of a binade the gap below is half
the gap above. -/
structure Binary where
  mantissa : Nat
  exponent : Int
  narrowBelow : Bool
  deriving DecidableEq, Repr

/-- The parts of a finite positive number, from the fields of its 64-bit form. -/
def Binary.ofFields (biased fraction : Nat) : Binary :=
  if biased = 0 then ⟨fraction, -1074, false⟩
  else ⟨Nat.pow 2 52 + fraction, (biased : Int) - 1075, fraction = 0 && biased > 1⟩

/-- The number, its lower and its upper bound as numerators over one denominator. -/
structure Bounds where
  low : Nat
  value : Nat
  high : Nat
  denominator : Nat
  closed : Bool

/-- The interval of reals that round to the number; its ends belong to it when the mantissa is
even. -/
def Binary.bounds (b : Binary) : Bounds :=
  let shift := b.exponent - 2
  let up := Nat.pow 2 shift.toNat
  let m := 4 * b.mantissa
  ⟨(m - (if b.narrowBelow then 1 else 2)) * up, m * up, (m + 2) * up, Nat.pow 2 (-shift).toNat,
    b.mantissa % 2 = 0⟩

/-! ### Decimals in the interval -/

structure Decimal where
  digits : Nat
  exponent : Int
  deriving DecidableEq, Repr

/-- The decimal times the denominator, and the power of ten that the bounds are to be multiplied
with before they are compared. -/
def Decimal.scaled (d : Decimal) (denominator : Nat) : Nat × Nat :=
  (d.digits * Nat.pow 10 d.exponent.toNat * denominator, Nat.pow 10 (-d.exponent).toNat)

/-- The decimal rounds to the number that the bounds describe. -/
def Bounds.admits (b : Bounds) (d : Decimal) : Bool :=
  let (x, scale) := d.scaled b.denominator
  if b.closed then b.low * scale ≤ x && x ≤ b.high * scale
  else b.low * scale < x && x < b.high * scale

/-- How far the decimal is from the number, in units that depend on the exponent only. -/
def Bounds.distance (b : Bounds) (d : Decimal) : Nat :=
  let (x, scale) := d.scaled b.denominator
  if x ≤ b.value * scale then b.value * scale - x else x - b.value * scale

def Bounds.leading (b : Bounds) : Int :=
  let whole := b.value / b.denominator
  if whole = 0 then
    -((List.range 400).find? (fun j => b.denominator ≤ b.value * Nat.pow 10 j)).getD 400
  else ((Nat.toDigits 10 whole).length : Int) - 1

/-- The decimal of a grid that lies in the interval next to the number. -/
def Bounds.nearest? (b : Bounds) (exponent : Int) : Option Decimal :=
  let floor := b.value * Nat.pow 10 (-exponent).toNat / (b.denominator * Nat.pow 10 exponent.toNat)
  let down : Decimal := ⟨floor, exponent⟩
  let up : Decimal := ⟨floor + 1, exponent⟩
  match b.admits down, b.admits up with
  | false, false => none
  | true, false => some down
  | false, true => some up
  | true, true =>
    if b.distance down < b.distance up then some down
    else if b.distance up < b.distance down then some up
    else if floor % 2 = 0 then some down else some up

/-- The decimal with the fewest digits, seventeen at most. -/
def Binary.shortest (b : Binary) : Decimal :=
  let bounds := b.bounds
  let top := bounds.leading
  ((List.range 17).findSome? fun (n : Nat) => bounds.nearest? (top - (n : Int))).getD ⟨0, 0⟩

/-! ### Layout -/

def trimZeros (digits : List Char) : List Char :=
  (digits.reverse.dropWhile (· = '0')).reverse

/-- The text of an exponent: a sign and two digits at least. -/
def exponentText (e : Int) : String :=
  let digits := toString e.natAbs
  (if e < 0 then "e-" else "e+") ++ (if digits.length < 2 then "0" ++ digits else digits)

/-- The text of a decimal: positional when the leading digit stands for a power of ten from -4
to 15, with an exponent otherwise. -/
def Decimal.text (d : Decimal) : String :=
  let all := Nat.toDigits 10 d.digits
  let digits := trimZeros all
  let point : Int := d.exponent + all.length
  if -4 < point && point ≤ 16 then
    if point ≤ 0 then
      "0." ++ String.ofList (List.replicate (-point).toNat '0' ++ digits)
    else if digits.length ≤ point.toNat then
      String.ofList (digits ++ List.replicate (point.toNat - digits.length) '0') ++ ".0"
    else
      String.ofList (digits.take point.toNat) ++ "." ++ String.ofList (digits.drop point.toNat)
  else
    match digits with
    | [] => "0.0"
    | [c] => String.ofList [c] ++ exponentText (point - 1)
    | c :: rest => String.ofList (c :: '.' :: rest) ++ exponentText (point - 1)

def text (x : Float) : String :=
  let bits := x.toBits.toNat
  let sign := if bits / Nat.pow 2 63 = 1 then "-" else ""
  let biased := bits / Nat.pow 2 52 % Nat.pow 2 11
  let fraction := bits % Nat.pow 2 52
  if biased = 2047 then if fraction = 0 then sign ++ "inf" else "nan"
  else if biased = 0 && fraction = 0 then sign ++ "0.0"
  else sign ++ (Binary.ofFields biased fraction).shortest.text

end CloudCredentials.Number
