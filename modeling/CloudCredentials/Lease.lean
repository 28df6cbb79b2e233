import CloudCredentials.Credentials
import CloudCredentials.Failure

/-!
# Leases

A lease is what the SDK calls refreshable credentials. It holds keys together with the time at which
they expire, and renews them by a fetch when they are used close to that time. Both parts of a lease
always come from one delivery: a delivery that lacks fields or whose time cannot be read leaves the
lease as it was.

A fetch acts on a state of any type; the clock is a function of that state.
-/

namespace CloudCredentials

/-! ### Deliveries -/

/-- An expiry as it is delivered: a time, or a field that is yet to be read as one. -/
inductive ExpiryField
  | time (t : Time.Timestamp)
  | field (d : Datum)
  deriving DecidableEq, Repr

/-- Read data as a time. -/
def readTime : Datum → Except Failure Time.Timestamp
  | .text s =>
    match Time.Timestamp.read s with
    | .ok t => .ok t
    | .error fault => .error (.time fault)
  | _ => .error (.mismatch .unreadableTime)

/-- The time that an expiry shows. A time is handed on in its written form, which is not read back
when its offset has seconds. -/
def ExpiryField.read : ExpiryField → Except Failure Time.Timestamp
  | .time t =>
    if t.offset.getD 0 % 60 = 0 then .ok t else .error (.time (.unknownFormat t.text))
  | .field d => readTime d

/-- What a fetch delivers: keys and an expiry, each of which may be missing. -/
structure Delivery where
  accessKey : Option Datum
  secretKey : Option Datum
  token : Option Datum
  expiry : Option ExpiryField
  deriving DecidableEq, Repr

namespace Delivery

def complete (keys : Keys) (expiry : ExpiryField) : Delivery :=
  ⟨some keys.accessKey, some keys.secretKey, some keys.token, some expiry⟩

def ofFields (fields : List (String × Datum)) : Delivery :=
  ⟨fields.lookup "access_key", fields.lookup "secret_key", fields.lookup "token",
    (fields.lookup "expiry_time").map .field⟩

def missing (d : Delivery) : List String :=
  (if d.accessKey.isNone then ["access_key"] else []) ++
  (if d.secretKey.isNone then ["secret_key"] else []) ++
  (if d.token.isNone then ["token"] else []) ++
  (if d.expiry.isNone then ["expiry_time"] else [])

def parts? (d : Delivery) : Option (Keys × ExpiryField) :=
  match d.accessKey, d.secretKey, d.token, d.expiry with
  | some accessKey, some secretKey, some token, some expiry =>
    some (⟨accessKey, secretKey, token⟩, expiry)
  | _, _, _, _ => none

@[simp] theorem parts?_complete (keys : Keys) (expiry : ExpiryField) :
    (complete keys expiry).parts? = some (keys, expiry) := rfl

end Delivery

/-! ### Leases and their state -/

/-- Keys and their expiry. A lease without keys has yet to fetch them; keys without an expiry are
never renewed. -/
structure Lease where
  keys : Option Keys := none
  expiry : Option Time.Timestamp := none
  deriving DecidableEq, Repr, Inhabited

inductive Need
  | unneeded
  | advisory
  | mandatory
  deriving DecidableEq, Repr

/-- Keys that live this long are not renewed. -/
def renewalLimit : Int := 900 * Time.second

/-- Keys that live shorter than this have to be renewed. -/
def mandatoryLimit : Int := 600 * Time.second

/-- The need for a renewal when keys live for `left` microseconds more. -/
def Need.ofLeft (left : Int) : Need :=
  if renewalLimit ≤ left then .unneeded
  else if mandatoryLimit ≤ left then .advisory
  else .mandatory

theorem Need.ofLeft_eq_unneeded_iff (left : Int) :
    Need.ofLeft left = .unneeded ↔ renewalLimit ≤ left := by
  unfold Need.ofLeft
  split
  · simp_all
  · split <;> simp_all

theorem Need.ofLeft_eq_mandatory_iff (left : Int) :
    Need.ofLeft left = .mandatory ↔ left < mandatoryLimit := by
  have hlt : mandatoryLimit < renewalLimit := by decide
  unfold Need.ofLeft
  split
  · simp
    omega
  · split
    · simp_all
    · simp_all

namespace Lease

/-- How urgent a renewal is at an instant. A time without an offset cannot be compared with the
clock. -/
def need (l : Lease) (now : Int) : Except Failure Need :=
  match l.keys, l.expiry with
  | none, _ => .ok .mandatory
  | some _, none => .ok .unneeded
  | some _, some t =>
    match t.instant? with
    | none => .error (.mismatch .localTime)
    | some e => .ok (Need.ofLeft (e - now))

/-- What stands against using keys that were stored just now. -/
def fault? (expiry : Time.Timestamp) (now : Int) : Option Failure :=
  match expiry.instant? with
  | none => some (.mismatch .localTime)
  | some e => if e < now then some .stillExpired else none

/-- Take over a delivery. Keys that have expired already are kept, and reported. -/
def store (method : String) (l : Lease) (d : Delivery) (now : Int) :
    Except Failure Unit × Lease :=
  match d.parts? with
  | none => (.error (.incompleteKeys method d.missing), l)
  | some (keys, field) =>
    match field.read with
    | .error failure => (.error failure, l)
    | .ok expiry =>
      match fault? expiry now with
      | some failure => (.error failure, ⟨some keys, some expiry⟩)
      | none => (.ok (), ⟨some keys, some expiry⟩)

def handOut (l : Lease) : Except Failure Keys :=
  match l.keys with
  | some keys => .ok keys
  | none => .error .stillExpired

/-- Use a lease: renew its keys when that is needed, then hand them out. A fetch that fails in
the advisory period is passed over. -/
def use {σ : Type} (method : String) (clock : σ → Int) (fetch : σ → Except Failure Delivery × σ)
    (l : Lease) (s : σ) : Except Failure Keys × Lease × σ :=
  match l.need (clock s) with
  | .error failure => (.error failure, l, s)
  | .ok .unneeded => (l.handOut, l, s)
  | .ok need =>
    match fetch s with
    | (.error failure, s) =>
      if need = .mandatory then (.error failure, l, s) else (l.handOut, l, s)
    | (.ok delivery, s) =>
      match l.store method delivery (clock s) with
      | (.error failure, l) => (.error failure, l, s)
      | (.ok (), l) => (l.handOut, l, s)

theorem store_incomplete {method : String} {l : Lease} {d : Delivery} {now : Int}
    (h : d.parts? = none) :
    l.store method d now = (.error (.incompleteKeys method d.missing), l) := by
  simp [store, h]

/-- While no renewal is needed a use hands out the keys and changes nothing. -/
theorem use_of_unneeded {σ : Type} {method : String} {clock : σ → Int}
    {fetch : σ → Except Failure Delivery × σ} {l : Lease} {s : σ}
    (h : l.need (clock s) = .ok .unneeded) :
    l.use method clock fetch s = (l.handOut, l, s) := by
  simp [use, h]

end Lease

end CloudCredentials
