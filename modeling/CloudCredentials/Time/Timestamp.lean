import CloudCredentials.Time.Calendar

/-!
# Timestamps

A timestamp shows a local time and, when it is known, how far that local time is ahead of
universal time. Only a timestamp with an offset names an instant; instants are counted in
microseconds from the first moment of 1970.
-/

namespace CloudCredentials.Time

/-! ### Amounts of time -/

def second : Int := 1000000

def hour : Int := 3600 * second

def day : Int := 86400 * second

/-! ### Timestamps and instants -/

/-- A local time in microseconds, and its offset from universal time in seconds. -/
structure Timestamp where
  clock : Int
  offset : Option Int
  deriving DecidableEq, Repr

/-- The timestamp of an instant, shown in universal time. -/
def Timestamp.ofInstant (t : Int) : Timestamp := ⟨t, some 0⟩

def Timestamp.instant? (t : Timestamp) : Option Int :=
  t.offset.map fun o => t.clock - o * second

@[simp] theorem Timestamp.instant?_ofInstant (t : Int) :
    (Timestamp.ofInstant t).instant? = some t := by
  simp [Timestamp.ofInstant, Timestamp.instant?]

/-- Two timestamps are the same time: they name one instant, or both show one local time without
an offset. -/
def Timestamp.sameTime (s t : Timestamp) : Bool :=
  match s.instant?, t.instant? with
  | some a, some b => a = b
  | none, none => s.clock = t.clock
  | _, _ => false

/-! ### Written form -/

/-- A number in decimal digits, with zeros in front up to a width. -/
def padded (width n : Nat) : String :=
  let digits := Nat.toDigits 10 n
  String.ofList (List.replicate (width - digits.length) '0' ++ digits)

/-- An offset as a sign, hours and minutes, and seconds when there are any. -/
def offsetText (offset : Int) : String :=
  let n := offset.natAbs
  let seconds := if n % 60 = 0 then "" else ":" ++ padded 2 (n % 60)
  (if offset < 0 then "-" else "+") ++ padded 2 (n / 3600) ++ ":" ++ padded 2 (n / 60 % 60) ++
    seconds

def dateText (clock : Int) : String :=
  let d := Date.ofDays (clock.fdiv day)
  padded 4 d.year ++ "-" ++ padded 2 d.month ++ "-" ++ padded 2 d.day

/-- The time of day of a local time, without the part of a second. -/
def timeOfDayText (clock : Int) : String :=
  let s := (clock.fmod day / second).toNat
  padded 2 (s / 3600) ++ ":" ++ padded 2 (s / 60 % 60) ++ ":" ++ padded 2 (s % 60)

/-- The written form: date, time of day, six digits of the second's part when it is not zero, and
the offset when it is known. -/
def Timestamp.text (t : Timestamp) : String :=
  let micros := (t.clock.fmod second).toNat
  let fraction := if micros = 0 then "" else "." ++ padded 6 micros
  dateText t.clock ++ "T" ++ timeOfDayText t.clock ++ fraction ++
    (t.offset.map offsetText).getD ""

/-- The written form of an instant in whole seconds, with the letter of universal time. -/
def wholeSecondsText (t : Int) : String := dateText t ++ "T" ++ timeOfDayText t ++ "Z"

end CloudCredentials.Time
