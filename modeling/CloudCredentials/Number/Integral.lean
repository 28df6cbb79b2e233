/-!
# Integral numbers

The integer that a binary floating-point number stands for, when it stands for one.
-/

namespace CloudCredentials.Number

/-- The value of a 64-bit number with the given fields, when it is an integer. -/
def integralOfFields (negative : Bool) (biased fraction : Nat) : Option Int :=
  if biased = 2047 then none
  else if biased = 0 then if fraction = 0 then some 0 else none
  else
    let mantissa := Nat.pow 2 52 + fraction
    let magnitude? : Option Nat :=
      if 1075 ≤ biased then some (mantissa * Nat.pow 2 (biased - 1075))
      else
        let divisor := Nat.pow 2 (1075 - biased)
        if mantissa % divisor = 0 then some (mantissa / divisor) else none
    magnitude?.map fun n => if negative then -(n : Int) else n

def integral? (x : Float) : Option Int :=
  let bits := x.toBits.toNat
  integralOfFields (bits / Nat.pow 2 63 = 1) (bits / Nat.pow 2 52 % Nat.pow 2 11)
    (bits % Nat.pow 2 52)

end CloudCredentials.Number
