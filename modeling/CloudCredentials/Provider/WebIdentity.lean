import CloudCredentials.Provider.AssumedRole
import CloudCredentials.Provider.Backed
import CloudCredentials.Provider.NamedProfile

/-!
# Web identity federation

Keys of a role that is assumed with a web identity token (`StsWebIdentityCredentialsProvider`). What
the provider is not given is taken from the environment at the moment when role and token file are
first known. With asynchronous update a background task renews the keys ahead of time, until the
provider is closed.
-/

namespace CloudCredentials

structure WebIdentity where
  client : Client
  role : Option String := none
  tokenFile : Option FileName := none
  session : Option String := none
  asyncUpdate : Bool := false
  deriving DecidableEq, Repr

/-- The background task of a provider: how often it renews, whether it is running, and whether it
has been told to stop. -/
structure Refresher where
  interval : Int
  running : Bool
  stopping : Bool := false
  deriving DecidableEq, Repr

namespace WebIdentity

def name : String := "StsWebIdentityCredentialsProvider"

def boolText (b : Bool) : String := if b then "True" else "False"

def shown (p : WebIdentity) : String :=
  name ++ "(role_arn=" ++ Text.quotedOption p.role ++
    ", web_identity_token_file=" ++ (p.tokenFile.map FileName.literal).getD "None" ++
    ", role_session_name=" ++ Text.quotedOption p.session ++
    ", async_credential_update=" ++ boolText p.asyncUpdate ++ ")"

/-- A given value, else that of a variable. -/
def orVariable (given : Option String) (w : World) (variableName : String) : Option String :=
  given <|> w.valueOf variableName

def nonempty? (text : Option String) : Option String := text.filter (· ≠ "")

/-- Look for a role and a token file. The role is assumed when its keys are first used. -/
def load (p : WebIdentity) (w : World) : Except Failure AssumedRole :=
  if !w.webIdentity then .error .unsupported
  else
    match nonempty? (orVariable (p.tokenFile.map FileName.plain) w
        "AWS_WEB_IDENTITY_TOKEN_FILE") with
    | none => .error (.notFound name .noTokenFile)
    | some tokenFile =>
      match nonempty? (orVariable p.role w "AWS_ROLE_ARN") with
      | none => .error (.misuse name .noRole)
      | some role =>
        let session := orVariable p.session w "AWS_ROLE_SESSION_NAME"
        .ok ⟨role, AssumedRole.sessionName session w.clock, tokenFile, {}, none⟩

def backing (client : Client) : Backing WebIdentity AssumedRole where
  load p w := ((p.load w).map some, p, w)
  use r w := r.use (fun _ => .ok client) w
  expiration r := r.lease.expiry

end WebIdentity

namespace Refresher

def start (asyncUpdate : Bool) (interval : Int) : Refresher := ⟨interval, asyncUpdate, false⟩

/-- The task told to stop, and gone. -/
def stop (r : Refresher) : Refresher := { r with running := false, stopping := true }

end Refresher

end CloudCredentials
