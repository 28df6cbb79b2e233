import CloudCredentials.ClientPlan
import CloudCredentials.Provider.AssumedRole
import CloudCredentials.Provider.InstanceProfile

/-!
# The standard lookup

The SDK's own lookup of keys (`DefaultCredentialsProvider`). Four of its places are described, in
order: the environment, a web identity token, the profile files and the instance metadata. A profile
that is asked for by name turns the environment off. The other places (roles that a profile assumes,
single sign-on, external processes, containers, older kinds of files) are not described. What they
do is taken from the world, which can let a look end with any failure, with nothing or with any
keys.
-/

namespace CloudCredentials

/-! ### Keys of the environment -/

namespace EnvironmentKeys

def method : String := "env"

def expiryName : String := "AWS_CREDENTIAL_EXPIRATION"

/-- The token: the older variable first. -/
def token (env : Environment) : Datum :=
  .ofOption (env.get? "AWS_SECURITY_TOKEN" <|> env.get? "AWS_SESSION_TOKEN")

def required (env : Environment) (name : String) : Except Failure String :=
  match env.nonempty? name with
  | some value => .ok value
  | none => .error (.partialKeys method name)

def keys (env : Environment) : Except Failure Keys := do
  let accessKey ← required env "AWS_ACCESS_KEY_ID"
  let secretKey ← required env "AWS_SECRET_ACCESS_KEY"
  return ⟨.text accessKey, .text secretKey, token env⟩

/-- The delivery that the variables make; it needs an expiry. -/
def delivery (env : Environment) : Except Failure Delivery := do
  let keys ← keys env
  let expiry ← required env expiryName
  return .complete keys (.field (.text expiry))

end EnvironmentKeys

/-! ### What the lookup finds -/

/-- What the lookup holds: keys that do not expire, a lease of keys of the environment, a role, a
lease of keys of the instance metadata, or a lease of keys found elsewhere. A role keeps the view of
the profiles that it was found with. -/
inductive StandardKeys
  | fixed (keys : Keys)
  | environment (lease : Lease)
  | role (role : AssumedRole) (view : ActiveProfile)
  | machine (lease : Lease)
  | other (method : String) (lease : Lease)
  deriving DecidableEq, Repr

namespace Standard

def name : String := "DefaultCredentialsProvider"

def shown : String := name ++ "()"

/-- The client that assumes a role: unsigned, in the region of the active profile. -/
def client (a : ActiveProfile) (w : World) : Except Failure Client := (unsignedClient a none w).1

/-! ### The places in order -/

def inEnvironment (w : World) : Except Failure (Option StandardKeys) :=
  match w.environment.nonempty? "AWS_ACCESS_KEY_ID" with
  | none => .ok none
  | some _ =>
    match EnvironmentKeys.keys w.environment with
    | .error failure => .error failure
    | .ok keys =>
      match w.environment.nonempty? EnvironmentKeys.expiryName with
      | none => .ok (some (.fixed keys))
      | some expiry =>
        (ExpiryField.field (.text expiry)).read.map fun expiry =>
          some (.environment ⟨some keys, some expiry⟩)

/-- The setting of a web identity: the variable, unless the environment is turned off, else what
the profile says. -/
def identitySetting (a : ActiveProfile) (options : ProfileFile.Section) (w : World)
    (variableName optionName : String) : Option String :=
  let fromProfile := (options.lookup optionName).map Datum.plain
  if a.name.isSome then fromProfile else w.valueOf variableName <|> fromProfile

def inWebIdentity (a : ActiveProfile) (options : ProfileFile.Section) (w : World) :
    Except Failure (Option StandardKeys) :=
  let setting := identitySetting a options w
  match (setting "AWS_WEB_IDENTITY_TOKEN_FILE" "web_identity_token_file").filter (· ≠ "") with
  | none => .ok none
  | some tokenFile =>
    match (setting "AWS_ROLE_ARN" "role_arn").filter (· ≠ "") with
    | none => .error .profileWithoutRole
    | some role =>
      if !w.webIdentity then .error .unsupportedLookup
      else
        let session := setting "AWS_ROLE_SESSION_NAME" "role_session_name"
        .ok (some (.role ⟨role, AssumedRole.sessionName session w.clock, tokenFile, {}, none⟩ a))

/-- Keys of the active profile in the credentials file or the config file. -/
def inFiles (profile : String) (w : World) : Except Failure (Option Keys) :=
  match ProfileFile.credentialsFileKeys w (ActiveProfile.credentialsFile w) profile with
  | .error failure => .error failure
  | .ok (some keys) => .ok (some keys)
  | .ok none => ProfileFile.configFileKeys w (ActiveProfile.configFile w) profile

def inPlaces (a : ActiveProfile) (profiles : ProfileFile.Sections) (w : World) :
    Except Failure (Option StandardKeys) :=
  let profile := match a.active? w with
    | some name => if name = "" then "default" else name
    | none => "default"
  let environment := if a.name.isSome then .ok none else inEnvironment w
  match environment with
  | .error failure => .error failure
  | .ok (some found) => .ok (some found)
  | .ok none =>
    match inWebIdentity a ((profiles.lookup profile).getD []) w with
    | .error failure => .error failure
    | .ok (some found) => .ok (some found)
    | .ok none => (inFiles profile w).map (·.map .fixed)

/-- The view that a lookup starts with: what is known of the profiles is kept only when a profile
was asked for by name. -/
def view (a : ActiveProfile) : ActiveProfile := if a.name.isSome then a else {}

/-- Look in the described places. The active profile has to exist, wherever the keys are found. -/
def lookInPlaces (a : ActiveProfile) (w : World) :
    Except Failure (Option StandardKeys) × ActiveProfile × World :=
  match a.options w with
  | (.error failure, a) => (.error failure, a, w)
  | (.ok _, a) =>
    match inPlaces a (a.known.getD []) w with
    | .error failure => (.error failure, a, w)
    | .ok (some found) => (.ok (some found), a, w)
    | .ok none =>
      let (found, w) := InstanceProfile.load w
      (found.map (·.map .machine), a, w)

/-- What is held of keys that were found elsewhere. -/
def ofFound : Found → StandardKeys
  | .fixed keys => .fixed keys
  | .leased method lease => .other method lease

/-- Look for keys: in the described places, unless the look ends otherwise. -/
def load (a : ActiveProfile) (w : World) :
    Except Failure (Option StandardKeys) × ActiveProfile × World :=
  let (look, rest) := w.looks.next none
  let w := { w.call .look with looks := rest }
  match look with
  | none => lookInPlaces (view a) w
  | some look => (look.map (·.map ofFound), view a, w)

/-- Fetch keys from the place elsewhere. -/
def renew (method : String) (w : World) : Except Failure Delivery × World :=
  let (outcome, rest) := w.renewals.next (.ok ⟨none, none, none, none⟩)
  (outcome, { w.call (.renewal method) with renewals := rest })

def use (found : StandardKeys) (w : World) :
    Except Failure Keys × StandardKeys × World :=
  match found with
  | .fixed keys => (.ok keys, found, w)
  | .environment lease =>
    let (answer, lease, w) := lease.use EnvironmentKeys.method World.clock
      (fun w => (EnvironmentKeys.delivery w.environment, w)) w
    (answer, .environment lease, w)
  | .role role view =>
    let (answer, role, w) := role.use (client view) w
    (answer, .role role view, w)
  | .machine lease =>
    let (answer, lease, w) := InstanceProfile.use lease w
    (answer, .machine lease, w)
  | .other method lease =>
    let (answer, lease, w) := lease.use method World.clock (renew method) w
    (answer, .other method lease, w)

def expiration : StandardKeys → Option Time.Timestamp
  | .fixed _ => none
  | .environment lease | .machine lease | .other _ lease => lease.expiry
  | .role role _ => role.lease.expiry

def backing : Backing ActiveProfile StandardKeys where
  load := load
  use := use
  expiration := expiration

end Standard

end CloudCredentials
