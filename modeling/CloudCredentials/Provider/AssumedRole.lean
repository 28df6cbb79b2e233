import CloudCredentials.Provider.RoleReply

/-!
# Assumed roles

A role that is assumed with a web identity token. The role, the session name and the place of the
token are fixed once; the token itself is read anew for each request to the token service. The last
reply of the service is kept before its keys are taken from it, and it serves the next fetch as well
while it lives long enough.
-/

namespace CloudCredentials

/-- A role with its session name, the file of the token, the keys assumed so far, and the reply that
is kept. -/
structure AssumedRole where
  role : String
  session : String
  tokenFile : String
  lease : Lease := {}
  stored : Option RoleReply := none
  deriving DecidableEq, Repr

namespace AssumedRole

def method : String := "assume-role-with-web-identity"

def operation : String := "AssumeRoleWithWebIdentity"

/-- The session name that is made up at an instant. -/
def generatedSession (now : Int) : String := "botocore-session-" ++ toString (now.tdiv Time.second)

/-- The session name: the given one, or one made up now when that is absent or empty. -/
def sessionName (given : Option String) (now : Int) : String :=
  match given with
  | some session => if session = "" then generatedSession now else session
  | none => generatedSession now

def readToken (w : World) (file : String) : Except Failure String :=
  if file.toList.contains (Char.ofNat 0) then .error (.refused .nullByte)
  else match w.files.read file with
    | .error fault => .error (.file fault)
    | .ok content =>
      match Text.decodeUtf8 content with
      | .error fault => .error (.encoding fault)
      | .ok cs => .ok (String.ofList (Text.unifyLineEnds cs))

/-- Send a request. -/
def request (r : AssumedRole) (token : String) (client : Client) (w : World) :
    Except Failure RoleReply × World :=
  let (outcome, rest) := w.roles.next (.ok {})
  let w := { w.call (.assumeRole r.role r.session token client) with roles := rest }
  match outcome with
  | .error failure => (.error (failure operation), w)
  | .ok answer => (.ok (.ofAnswer answer w.clock), w)

/-- Read the token, find a client and send a request. -/
def ask (r : AssumedRole) (client : World → Except Failure Client) (w : World) :
    Except Failure RoleReply × World :=
  match readToken w r.tokenFile with
  | .error failure => (.error failure, w)
  | .ok token =>
    match client w with
    | .error failure => (.error failure, w)
    | .ok client => r.request token client w

/-- Take the keys from the reply that is kept, if it still serves, else from a new one, which is
kept first. -/
def fetch (r : AssumedRole) (client : World → Except Failure Client) (s : Keeping) :
    Except Failure Delivery × Keeping :=
  match RoleReply.serving? s.1 s.2.clock with
  | .error failure => (.error failure, s)
  | .ok (some reply) => (reply.unpack, s)
  | .ok none =>
    match r.ask client s.2 with
    | (.error failure, w) => (.error failure, s.1, w)
    | (.ok reply, w) => (reply.unpack, some reply, w)

/-- Use the keys of the role; the first use assumes it. -/
def use (client : World → Except Failure Client) (r : AssumedRole) (w : World) :
    Except Failure Keys × AssumedRole × World :=
  let (answer, lease, stored, w) := r.lease.use method Keeping.clock (r.fetch client) (r.stored, w)
  (answer, { r with lease, stored }, w)

/-- Whatever happens, using a role leaves what was fixed as it is. -/
theorem use_fixed (client : World → Except Failure Client) (r : AssumedRole) (w : World) :
    (r.use client w).2.1.role = r.role ∧ (r.use client w).2.1.session = r.session ∧
      (r.use client w).2.1.tokenFile = r.tokenFile := ⟨rfl, rfl, rfl⟩

end AssumedRole

end CloudCredentials
