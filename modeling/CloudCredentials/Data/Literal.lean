import CloudCredentials.Data.Value
import CloudCredentials.Number.Shortest
import CloudCredentials.Text.Quoted

/-!
# Literal forms

The literal form of a structured value, as a fault in the settings shows the value that it
refused, and the name of the value's kind.
-/

namespace CloudCredentials

/-! ### Times -/

def callText (name : String) (arguments : List String) : String :=
  name ++ "(" ++ ", ".intercalate arguments ++ ")"

def dateLiteral (d : Time.Date) : String :=
  callText "datetime.date" [toString d.year, toString d.month, toString d.day]

/-- The literal form of an offset: whole days and the seconds that remain, never negative. -/
def offsetLiteral (offset : Int) : String :=
  if offset = 0 then "datetime.timezone.utc" else
  let days := offset.fdiv 86400
  let seconds := offset.fmod 86400
  let parts := (if days = 0 then [] else ["days=" ++ toString days]) ++
    (if seconds = 0 then [] else ["seconds=" ++ toString seconds])
  callText "datetime.timezone" [callText "datetime.timedelta" parts]

/-- The literal form of a timestamp; seconds and microseconds are left out when they and all that
follows them are zero. -/
def timestampLiteral (t : Time.Timestamp) : String :=
  let d := Time.Date.ofDays (t.clock.fdiv Time.day)
  let rest := t.clock.fmod Time.day
  let micros := rest % Time.second
  let seconds := rest / Time.second
  let small := if micros ≠ 0 then [seconds % 60, micros]
    else if seconds % 60 ≠ 0 then [seconds % 60] else []
  let numbers := [(d.year : Int), d.month, d.day, seconds / 3600, seconds / 60 % 60] ++ small
  callText "datetime.datetime" (numbers.map toString ++
    match t.offset with
    | some offset => ["tzinfo=" ++ offsetLiteral offset]
    | none => [])

/-! ### Values -/

mutual

def Value.literal : Value → String
  | .null => "None"
  | .bool true => "True"
  | .bool false => "False"
  | .int n => toString n
  | .float x => Number.text x
  | .text s => Text.quoted s
  | .brokenText codes => String.ofList (Text.quotedCodes codes)
  | .bytes content => String.ofList (Text.quotedBytes content)
  | .date d => dateLiteral d
  | .time t => timestampLiteral t
  | .list items => "[" ++ ", ".intercalate (literals items) ++ "]"
  | .pair a b => "(" ++ a.literal ++ ", " ++ b.literal ++ ")"
  | .set [] => "set()"
  | .set items => "\x7b" ++ ", ".intercalate (literals items) ++ "\x7d"
  | .map entries => "\x7b" ++ ", ".intercalate (entryLiterals entries) ++ "\x7d"

def literals : List Value → List String
  | [] => []
  | v :: rest => v.literal :: literals rest

def entryLiterals : List (Value × Value) → List String
  | [] => []
  | (key, value) :: rest => (key.literal ++ ": " ++ value.literal) :: entryLiterals rest

end

def Value.kindName : Value → String
  | .null => "NoneType"
  | .bool _ => "bool"
  | .int _ => "int"
  | .float _ => "float"
  | .text _ | .brokenText _ => "str"
  | .bytes _ => "bytes"
  | .date _ => "date"
  | .time _ => "datetime"
  | .list _ => "list"
  | .pair _ _ => "tuple"
  | .set _ => "set"
  | .map _ => "dict"

/-! ### Long forms -/

def utf8Width (c : Char) : Nat := c.utf8Size

def takeBytes : Nat → List Char → List Char
  | _, [] => []
  | limit, c :: rest =>
    if utf8Width c ≤ limit then c :: takeBytes (limit - utf8Width c) rest else []

/-- A form of more than fifty bytes is cut in the middle: twenty-five bytes of its start and
twenty-four of its end remain. -/
def shorten (s : String) : String :=
  if s.utf8ByteSize ≤ 50 then s
  else
    let cs := s.toList
    String.ofList (takeBytes 25 cs) ++ "..." ++
      String.ofList (takeBytes 24 cs.reverse).reverse

end CloudCredentials
