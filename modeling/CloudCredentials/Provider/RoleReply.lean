import CloudCredentials.World

/-!
# Replies about roles

What the token service replies when a role is assumed, and how keys are taken from a reply. A reply
is kept as it came in: it may lack parts, and its expiry may be data that cannot be read.
-/

namespace CloudCredentials

/-- The time at which something expires that is delivered now. -/
def Expiry.timeAt (now : Int) : Expiry → Time.Timestamp
  | .at t => t
  | .after micros => .ofInstant (now + micros)

def RoleExpiry.fieldAt (now : Int) : RoleExpiry → ExpiryField
  | .expiry e => .time (e.timeAt now)
  | .written d => .field d

/-- A reply: keys and an expiry, each of which may be missing, or no part for keys at all. -/
abbrev RoleReply := Option Delivery

namespace RoleReply

/-- An answer as it comes in. -/
def ofAnswer (answer : RoleAnswer) (now : Int) : RoleReply :=
  answer.keys.map fun k => ⟨k.accessKey, k.secretKey, k.token, k.expiry.map (·.fieldAt now)⟩

/-- What a reply delivers. -/
def delivery (reply : RoleReply) : Delivery := reply.getD ⟨none, none, none, none⟩

/-- The part that is missed first when the keys are taken from a reply. -/
def missing? : RoleReply → Option String
  | none => some "Credentials"
  | some d =>
    if d.expiry.isNone then some "Expiration"
    else if d.accessKey.isNone then some "AccessKeyId"
    else if d.secretKey.isNone then some "SecretAccessKey"
    else if d.token.isNone then some "SessionToken"
    else none

/-- Take the keys from a reply; all parts have to be there. -/
def unpack (reply : RoleReply) : Except Failure Delivery :=
  match reply.missing? with
  | some name => .error (.missingField name)
  | none => .ok reply.delivery

/-- The time that the expiry of a reply shows; a time need not be written for it. -/
def timeOf : ExpiryField → Except Failure Time.Timestamp
  | .time t => .ok t
  | .field d => readTime d

/-- A reply that is kept serves while it lives this long. -/
def servingLimit : Int := 900 * Time.second

/-- Whether a reply that is kept still serves. Its expiry has to be there, and to show a time with
an offset. -/
def serves (reply : RoleReply) (now : Int) : Except Failure Bool :=
  match reply with
  | none => .error (.missingField "Credentials")
  | some d =>
    match d.expiry with
    | none => .error (.missingField "Expiration")
    | some field =>
      match timeOf field with
      | .error failure => .error failure
      | .ok t =>
        match t.instant? with
        | none => .error (.mismatch .localTime)
        | some e => .ok (servingLimit ≤ e - now)

/-- The reply that is kept, if there is one and it still serves. -/
def serving? (stored : Option RoleReply) (now : Int) : Except Failure (Option RoleReply) :=
  match stored with
  | none => .ok none
  | some reply => (reply.serves now).map fun serves => if serves then some reply else none

end RoleReply

/-- What a fetch acts on that keeps replies: the reply that is kept, and the world. -/
abbrev Keeping := Option RoleReply × World

def Keeping.clock (s : Keeping) : Int := s.2.clock

end CloudCredentials
