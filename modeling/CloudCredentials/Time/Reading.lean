import CloudCredentials.Text.Blank
import CloudCredentials.Time.Timestamp

/-!
# Reading timestamps

The timestamp that a text shows: a date, optionally a time of day with parts of a second, and
optionally an offset. Date and time may be written with or without their separators.
-/

namespace CloudCredentials.Time

/-! ### Faults -/

inductive ReadingFault
  | unknownFormat (text : String)
  | noDate (text : String)
  | outOfRange (rule : String) (text : String)
  deriving DecidableEq, Repr

def ReadingFault.message : ReadingFault → String
  | .unknownFormat text => "Unknown string format: " ++ text
  | .noDate text => "String does not contain a date: " ++ text
  | .outOfRange rule text => rule ++ ": " ++ text

def DateFault.rule : DateFault → String
  | .year => "year is out of range"
  | .month => "month must be in 1..12"
  | .day => "day is out of range for month"

/-! ### Parts of a timestamp -/

/-- Exactly `width` decimal digits at the start, and what follows them. -/
def digits? : Nat → List Char → Nat → Option (Nat × List Char)
  | 0, rest, n => some (n, rest)
  | width + 1, c :: rest, n =>
    if c.isDigit then digits? width rest (n * 10 + (c.toNat - '0'.toNat)) else none
  | _ + 1, [], _ => none

def number? (width : Nat) (cs : List Char) : Option (Nat × List Char) := digits? width cs 0

/-- A year, a month and a day, and what follows them. -/
def dateParts? (cs : List Char) : Option ((Nat × Nat × Nat) × List Char) := do
  let (year, rest) ← number? 4 cs
  match rest with
  | c :: rest =>
    if c = '-' ∨ c = '/' then
      let (month, rest) ← number? 2 rest
      match rest with
      | d :: rest =>
        if c = d then
          let (day, rest) ← number? 2 rest
          return ((year, month, day), rest)
        else none
      | [] => none
    else
      let (month, rest) ← number? 2 (c :: rest)
      let (day, rest) ← number? 2 rest
      return ((year, month, day), rest)
  | [] => none

/-- The microseconds that the digits after a decimal point stand for; digits after the sixth are
dropped. -/
def microseconds (digits : List Char) : Nat :=
  ((digits ++ List.replicate 6 '0').take 6).foldl
    (fun n c => n * 10 + (c.toNat - '0'.toNat)) 0

def fraction (cs : List Char) : Nat × List Char :=
  match cs with
  | '.' :: rest | ',' :: rest =>
    let digits := rest.takeWhile Char.isDigit
    if digits.isEmpty then (0, cs) else (microseconds digits, rest.dropWhile Char.isDigit)
  | _ => (0, cs)

/-- Hours, minutes, seconds and microseconds. -/
structure TimeOfDay where
  hours : Nat
  minutes : Nat
  seconds : Nat
  micros : Nat
  deriving DecidableEq, Repr

/-- A time of day, and what follows it. -/
def timeOfDay? (cs : List Char) : Option (TimeOfDay × List Char) := do
  let (hours, rest) ← number? 2 cs
  match rest with
  | ':' :: rest =>
    let (minutes, rest) ← number? 2 rest
    match rest with
    | ':' :: rest =>
      let (seconds, rest) ← number? 2 rest
      let (micros, rest) := fraction rest
      return (⟨hours, minutes, seconds, micros⟩, rest)
    | _ => return (⟨hours, minutes, 0, 0⟩, rest)
  | _ =>
    let (minutes, rest) ← number? 2 rest
    match number? 2 rest with
    | some (seconds, rest) =>
      let (micros, rest) := fraction rest
      return (⟨hours, minutes, seconds, micros⟩, rest)
    | none => return (⟨hours, minutes, 0, 0⟩, rest)

/-- An offset at the end of a text: the letter or name of universal time, or a sign with hours
and minutes. -/
def offset? (cs : List Char) : Option (Option Int) :=
  match Text.trimLeft cs with
  | [] => some none
  | ['Z'] | ['z'] | ['U', 'T', 'C'] | ['G', 'M', 'T'] => some (some 0)
  | c :: rest =>
    if c = '+' ∨ c = '-' then do
      let (hours, rest) ← number? 2 rest
      let rest := match rest with
        | ':' :: rest => rest
        | rest => rest
      let minutes ← match rest with
        | [] => some 0
        | rest => match number? 2 rest with
          | some (minutes, []) => some minutes
          | _ => none
      let seconds : Int := ((hours * 3600 + minutes * 60 : Nat) : Int)
      return some (if c = '-' then -seconds else seconds)
    else none

/-! ### Whole timestamps -/

def TimeOfDay.fault? (t : TimeOfDay) : Option String :=
  if 23 < t.hours then some "hour must be in 0..23"
  else if 59 < t.minutes then some "minute must be in 0..59"
  else if 59 < t.seconds then some "second must be in 0..59"
  else none

def TimeOfDay.toMicros (t : TimeOfDay) : Int :=
  ((t.hours * 3600 + t.minutes * 60 + t.seconds : Nat) : Int) * second + t.micros

/-- What stands between a date and the end of the text: nothing, or a time of day and an
optional offset. -/
def timeAndOffset? (cs : List Char) : Option (TimeOfDay × Option Int) :=
  match cs with
  | [] => some (⟨0, 0, 0, 0⟩, none)
  | 'T' :: rest | ' ' :: rest => do
    let (time, rest) ← timeOfDay? rest
    let offset ← offset? rest
    return (time, offset)
  | _ => none

def Timestamp.read (text : String) : Except ReadingFault Timestamp :=
  let cs := Text.trim text.toList
  if cs.isEmpty then .error (.noDate text) else
  match dateParts? cs with
  | none => .error (.unknownFormat text)
  | some ((year, month, day'), rest) =>
    match timeAndOffset? rest with
    | none => .error (.unknownFormat text)
    | some (time, offset) =>
      match Date.checked year month day' with
      | .error fault => .error (.outOfRange fault.rule text)
      | .ok date =>
        match time.fault? with
        | some rule => .error (.outOfRange rule text)
        | none => .ok ⟨date.toDays * day + time.toMicros, offset⟩

end CloudCredentials.Time
