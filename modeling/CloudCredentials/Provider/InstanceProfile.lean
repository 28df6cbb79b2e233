import CloudCredentials.Lease
import CloudCredentials.Provider.Backed

/-!
# Instance metadata

Keys of the role that is attached to the machine, delivered by the metadata service
(`InstanceProfileCredentialsProvider`). What the service answers when the source loads is taken as
it is; later answers follow the rules of a lease.
-/

namespace CloudCredentials

namespace InstanceProfile

def name : String := "InstanceProfileCredentialsProvider"

def shown : String := name ++ "()"

def method : String := "iam-role"

/-- The fields of an answer, with the expiry written as a time. -/
def fieldsAt (answer : MetadataAnswer) (now : Int) : List (String × Datum) :=
  match answer.expiresIn with
  | none => answer.fields
  | some micros =>
    answer.fields.filter (·.1 ≠ "expiry_time") ++
      [("expiry_time", .text (Time.wholeSecondsText (now + micros)))]

def query (w : World) : Except Failure (List (String × Datum)) × World :=
  let (outcome, rest) := w.metadata.next (.ok {})
  let w := { w.call .metadata with metadata := rest }
  match outcome with
  | .error failure => (.error (failure "Operation"), w)
  | .ok answer => (.ok (fieldsAt answer w.clock), w)

def fetch (w : World) : Except Failure Delivery × World :=
  match query w with
  | (.error failure, w) => (.error failure, w)
  | (.ok fields, w) => (.ok (.ofFields fields), w)

def field (fields : List (String × Datum)) (name : String) : Except Failure Datum :=
  match fields.lookup name with
  | some d => .ok d
  | none => .error (.missingField name)

def leaseOf (fields : List (String × Datum)) : Except Failure Lease := do
  let _ ← field fields "role_name"
  let accessKey ← field fields "access_key"
  let secretKey ← field fields "secret_key"
  let token ← field fields "token"
  let expiry ← field fields "expiry_time"
  let expiry ← (ExpiryField.field expiry).read
  return ⟨some ⟨accessKey, secretKey, token⟩, some expiry⟩

/-- Look for a role; an answer without fields says that there is none. -/
def load (w : World) : Except Failure (Option Lease) × World :=
  match query w with
  | (.error failure, w) => (.error failure, w)
  | (.ok fields, w) =>
    if fields.isEmpty then (.ok none, w) else ((leaseOf fields).map some, w)

def use (l : Lease) (w : World) : Except Failure Keys × Lease × World :=
  l.use method World.clock fetch w

def backing : Backing Unit Lease where
  load _ w :=
    let (found, w) := load w
    (found, (), w)
  use := use
  expiration := Lease.expiry

end InstanceProfile

end CloudCredentials
