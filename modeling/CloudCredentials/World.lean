import CloudCredentials.ClientRules
import CloudCredentials.Lease

/-!
# The world around the providers

What providers look at and act upon: environment, files, clock, the services that answer requests,
and the SDK where it is not described here. Each service follows a script of outcomes, and so does
what the SDK finds elsewhere. The world keeps the calls that were made and the records that were
logged.
-/

namespace CloudCredentials

/-! ### Scripts -/

/-- Outcomes that follow each other; the last one repeats. -/
abbrev Script (α : Type) := List α

/-- The next outcome, or a default when there is none, and the script from then on. -/
def Script.next {α : Type} (default : α) : Script α → α × Script α
  | [] => (default, [])
  | [a] => (a, [a])
  | a :: rest => (a, rest)

/-! ### Outcomes of the services -/

/-- When something that a service delivers expires. -/
inductive Expiry
  | at (t : Time.Timestamp)
  | after (micros : Int)
  deriving DecidableEq, Repr

/-- What the metadata service answers: fields by name, and how long the keys live when that is
said in place of a time. -/
structure MetadataAnswer where
  fields : List (String × Datum) := []
  expiresIn : Option Int := none

/-- The expiry in an answer about a role: a time, or data that is yet to be read as one. -/
inductive RoleExpiry
  | expiry (e : Expiry)
  | written (d : Datum)
  deriving DecidableEq, Repr

/-- The keys in an answer about a role; any part may be missing. -/
structure RoleKeys where
  accessKey : Option Datum := some (.text "ASIASTS")
  secretKey : Option Datum := some (.text "sts-secret")
  token : Option Datum := some (.text "sts-token")
  expiry : Option RoleExpiry := some (.expiry (.after Time.hour))
  deriving DecidableEq, Repr

/-- What the token service answers when a role is assumed: keys, or nothing that could be taken for
keys. An answer that the SDK fails to look through before it keeps it counts as a failed request. -/
structure RoleAnswer where
  keys : Option RoleKeys := some {}
  deriving DecidableEq, Repr

/-- The answer with all keys and a time. -/
def RoleAnswer.complete (keys : Keys) (expiry : Expiry) : RoleAnswer :=
  ⟨some ⟨some keys.accessKey, some keys.secretKey, some keys.token, some (.expiry expiry)⟩⟩

/-- What the token service answers when it is asked whose keys it sees. -/
structure IdentityAnswer where
  fields : List (String × Datum) :=
    [("Account", .text "123456789012"), ("UserId", .text "AIDA"),
      ("Arn", .text "arn:aws:iam::123456789012:user/dev")]

/-- The outcome of a request: an answer, or a failure that may depend on the operation that was
called. -/
abbrev Outcome (α : Type) := Except (String → Failure) α

/-! ### What the SDK finds elsewhere -/

/-- Keys that the SDK finds in a place that is not described here: keys that do not expire, or a
lease, which may have yet to fetch its keys. -/
inductive Found
  | fixed (keys : Keys)
  | leased (method : String) (lease : Lease)
  deriving DecidableEq, Repr

/-- How a look for keys ends when something beyond the described places decides it: with a failure
of any kind, with nothing, or with keys. -/
abbrev Look := Except Failure (Option Found)

/-! ### Calls and records -/

inductive Signing
  | plain
  | unsigned
  | signed (accessKey : Datum)
  deriving DecidableEq, Repr

/-- A client of the token service: its region and how it signs. -/
structure Client where
  region : String
  signing : Signing
  deriving DecidableEq, Repr

/-- A call that was made. A look of the SDK for keys counts as one, and so does a renewal of keys
that it has found elsewhere. -/
inductive Call
  | metadata
  | clientMade (region : String)
  | regionAsked
  | resolve (name : String)
  | close (name : String)
  | assumeRole (role session token : String) (client : Client)
  | look
  | renewal (method : String)
  | callerIdentity (client : Client)
  deriving DecidableEq, Repr

inductive Level
  | debug
  | info
  | warning
  | error
  deriving DecidableEq, Repr

inductive Channel
  | settings
  | region
  | resolver
  | providers
  | session
  deriving DecidableEq, Repr

structure Record where
  level : Level
  channel : Channel
  text : String
  deriving DecidableEq, Repr

/-! ### The world -/

/-- The world at one moment. The scripts `looks` and `renewals` stand for the rest of the SDK: a
look for keys ends as the next entry of `looks` says, and goes through the described places where
the entry says nothing; keys found elsewhere are renewed as `renewals` says. -/
structure World where
  environment : Environment := []
  files : Files := []
  clock : Int := 0
  metadata : Script (Outcome MetadataAnswer) := []
  roles : Script (Outcome RoleAnswer) := []
  identity : Script (Outcome IdentityAnswer) := []
  looks : Script (Option Look) := []
  renewals : Script (Except Failure Delivery) := []
  clients : ClientRules := .usual
  webIdentity : Bool := true
  calls : List Call := []
  log : List Record := []
  deriving Inhabited

namespace World

def call (w : World) (c : Call) : World := { w with calls := w.calls ++ [c] }

def record (w : World) (level : Level) (channel : Channel) (text : String) : World :=
  { w with log := w.log ++ [⟨level, channel, text⟩] }

@[simp] theorem calls_call (w : World) (c : Call) : (w.call c).calls = w.calls ++ [c] := rfl

@[simp] theorem calls_record (w : World) (l : Level) (c : Channel) (t : String) :
    (w.record l c t).calls = w.calls := rfl

@[simp] theorem log_call (w : World) (c : Call) : (w.call c).log = w.log := rfl

@[simp] theorem log_record (w : World) (l : Level) (c : Channel) (t : String) :
    (w.record l c t).log = w.log ++ [⟨l, c, t⟩] := rfl

@[simp] theorem clock_call (w : World) (c : Call) : (w.call c).clock = w.clock := rfl

@[simp] theorem clock_record (w : World) (l : Level) (c : Channel) (t : String) :
    (w.record l c t).clock = w.clock := rfl

def advance (w : World) (micros : Int) : World := { w with clock := w.clock + micros }

def valueOf (w : World) (name : String) : Option String := w.environment.get? name

end World

/-- What a step leaves: its result and the world after it. -/
abbrev Step (α : Type) := Except Failure α × World

end CloudCredentials
