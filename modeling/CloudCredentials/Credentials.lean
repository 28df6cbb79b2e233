import CloudCredentials.Data.Datum
import CloudCredentials.Time.Timestamp

/-!
# Credentials

Keys as a service takes them, and credentials as a provider hands them out (`AWSCredentials`): keys,
the time at which they expire, and the provider's name. The shown form leaves the secrets out.
-/

namespace CloudCredentials

/-- An access key, its secret key, and a session token. -/
structure Keys where
  accessKey : Datum
  secretKey : Datum
  token : Datum
  deriving DecidableEq, Repr, Inhabited

def Keys.isComplete (k : Keys) : Bool := !k.accessKey.isEmpty && !k.secretKey.isEmpty

structure Credentials where
  keys : Keys
  expiration : Option Time.Timestamp := none
  provider : Option String := none
  deriving DecidableEq, Repr, Inhabited

namespace Credentials

/-- The shown form: the access key's id, the expiration and the provider's name. -/
def shown (c : Credentials) : String :=
  "AWSCredentials(access_key_id=" ++ c.keys.accessKey.literal ++
    ", expiration=" ++ (c.expiration.map Time.Timestamp.text).getD "None" ++
    ", provider_name=" ++ Text.quotedOption c.provider ++ ")"

/-- The shown form does not depend on the secret key and the token. -/
theorem shown_eq_of_accessKey {c d : Credentials} (hk : c.keys.accessKey = d.keys.accessKey)
    (he : c.expiration = d.expiration) (hp : c.provider = d.provider) : c.shown = d.shown := by
  unfold shown
  rw [hk, he, hp]

/-- Two expirations are the same: both absent, or the same time. -/
def sameExpiration : Option Time.Timestamp → Option Time.Timestamp → Bool
  | none, none => true
  | some s, some t => s.sameTime t
  | _, _ => false

/-- Two credentials are the same: equal keys and names, and the same expiration. -/
def same (c d : Credentials) : Bool :=
  c.keys = d.keys && sameExpiration c.expiration d.expiration && c.provider = d.provider

end Credentials

end CloudCredentials
