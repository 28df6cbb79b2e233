import CloudCredentials.Number.Integral
import CloudCredentials.Time.Timestamp

/-!
# Structured values

The values that settings are read from: scalars, lists and mappings. A mapping keeps its entries
in the order in which their keys were first given, and has one entry for a key.
-/

namespace CloudCredentials

/-! ### Values -/

/-- A structured value. Text that holds half of a surrogate pair is kept as its code points. -/
inductive Value
  | null
  | bool (b : Bool)
  | int (n : Int)
  | float (x : Float)
  | text (s : String)
  | brokenText (codes : List Nat)
  | bytes (content : List UInt8)
  | date (d : Time.Date)
  | time (t : Time.Timestamp)
  | list (items : List Value)
  | pair (first second : Value)
  | set (items : List Value)
  | map (entries : List (Value × Value))
  deriving Inhabited

abbrev Mapping := List (Value × Value)

namespace Value

/-- The code point is half of a surrogate pair. -/
def isSurrogate (code : Nat) : Bool := 0xD800 ≤ code && code ≤ 0xDFFF

def ofCodes (codes : List Nat) : Value :=
  if codes.any isSurrogate then .brokenText codes
  else .text (String.ofList (codes.map Char.ofNat))

def text? : Value → Option String
  | .text s => some s
  | _ => none

def integer? : Value → Option Int
  | .bool b => some (if b then 1 else 0)
  | .int n => some n
  | .float x => Number.integral? x
  | _ => none

def isHashable : Value → Bool
  | .list _ | .set _ | .map _ => false
  | .pair a b => a.isHashable && b.isHashable
  | _ => true

/-- Two keys are the same key: numbers by what they stand for, all else by kind and content. -/
def sameKey : Value → Value → Bool
  | .null, .null => true
  | .text a, .text b => a = b
  | .brokenText a, .brokenText b => a = b
  | .bytes a, .bytes b => a = b
  | .date a, .date b => a = b
  | .time a, .time b => a.sameTime b
  | .pair a b, .pair c d => a.sameKey c && b.sameKey d
  | .float a, .float b => a == b
  | a, b => match a.integer?, b.integer? with
    | some m, some n => m = n
    | _, _ => false

@[simp] theorem sameKey_text (a b : String) : sameKey (.text a) (.text b) = decide (a = b) := rfl

theorem sameKey_text_iff {v : Value} {name : String} :
    v.sameKey (.text name) = true ↔ v = .text name := by
  cases v <;> simp [sameKey, integer?]

/-- The value stands for nothing: absent, false, zero or without content. -/
def isFalsy : Value → Bool
  | .null => true
  | .bool b => !b
  | .int n => n = 0
  | .float x => x == 0
  | .text s => s = ""
  | .brokenText codes => codes.isEmpty
  | .bytes content => content.isEmpty
  | .list items | .set items => items.isEmpty
  | .map entries => entries.isEmpty
  | .date _ | .time _ | .pair _ _ => false

end Value

/-! ### Mappings -/

namespace Mapping

def find? (m : Mapping) (key : Value) : Option Value :=
  (List.find? (fun e => e.1.sameKey key) m).map Prod.snd

def get? (m : Mapping) (key : String) : Option Value := find? m (.text key)

/-- The mapping with a value for a key: a known key keeps its place, a new one goes to the
end. -/
def put (m : Mapping) (key value : Value) : Mapping :=
  if m.any (·.1.sameKey key) then m.map fun e => if e.1.sameKey key then (e.1, value) else e
  else m ++ [(key, value)]

def set (m : Mapping) (key : String) (value : Value) : Mapping := put m (.text key) value

theorem get?_set (m : Mapping) (name : String) (value : Value) :
    (m.set name value).get? name = some value := by
  simp only [get?, find?, set, put]
  split
  · rename_i h
    induction m with
    | nil => simp at h
    | cons e rest ih =>
      by_cases he : e.1.sameKey (.text name) = true
      · simp [he]
      · have hr : (rest.any fun e => e.1.sameKey (.text name)) = true := by simpa [he] using h
        simpa [he] using ih hr
  · rename_i h
    rw [List.find?_append, List.find?_eq_none.mpr (by simpa using h)]
    simp

/-- A value under a name does not change what is found under another one. -/
theorem get?_set_of_ne (m : Mapping) {name other : String} (hne : other ≠ name) (value : Value) :
    (m.set name value).get? other = m.get? other := by
  simp only [get?, find?, set, put]
  split
  · rename_i h
    clear h
    induction m with
    | nil => rfl
    | cons e rest ih =>
      by_cases he : e.1.sameKey (.text name) = true
      · have h1 := Value.sameKey_text_iff.mp he
        simp [h1, Ne.symm hne] at ih ⊢
        simpa using ih
      · simp only [List.map_cons, he, List.find?_cons]
        split <;> simp_all
  · rw [List.find?_append]
    simp [Ne.symm hne]

/-- The mapping of a list of entries, in which a later entry replaces an earlier one. -/
def ofEntries (entries : List (Value × Value)) : Mapping :=
  entries.foldl (fun m e => put m e.1 e.2) []

end Mapping

/-! ### Merging -/

mutual

/-- A value laid over another one: mappings are merged, all else is replaced. -/
def Value.over (base : Option Value) : Value → Value
  | .map entries =>
    match base with
    | some (.map below) => .map (Mapping.over below entries)
    | _ => .map entries
  | value => value

/-- Entries laid over a mapping, key by key. -/
def Mapping.over (base : Mapping) : List (Value × Value) → Mapping
  | [] => base
  | (key, value) :: rest =>
    Mapping.over (Mapping.put base key (Value.over (Mapping.find? base key) value)) rest

end

end CloudCredentials
