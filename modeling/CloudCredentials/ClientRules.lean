import CloudCredentials.Endpoint
import CloudCredentials.Environment
import CloudCredentials.ProfileFile.Grammar
import CloudCredentials.Text.LowerCase

/-!
# Client settings

What the SDK makes a client of the token service from, apart from keys and the region: the options
of the active profile and the variables of the environment. What it makes of them is not known here.
It may refuse a setting, with any failure, before or after the keys of the client are loaded, and
it may lead the client to another endpoint than the usual one.
-/

namespace CloudCredentials

/-! ### Settings -/

/-- The settings of a client: what the active profile says and the variables. -/
structure ClientSettings where
  options : ProfileFile.Section
  valueOf : String → Option String

namespace ClientSettings

/-- The options that hold the keys of a profile. -/
def keyOptions : List String :=
  ["aws_access_key_id", "aws_secret_access_key", "aws_security_token", "aws_session_token"]

/-- The variables that hold keys, or name the profile whose options count. -/
def keyVariables : List String :=
  ["AWS_ACCESS_KEY_ID", "AWS_SECRET_ACCESS_KEY", "AWS_SECURITY_TOKEN", "AWS_SESSION_TOKEN",
    "AWS_CREDENTIAL_EXPIRATION", "AWS_DEFAULT_PROFILE", "AWS_PROFILE"]

/-- What the names of the variables for this library's own settings start with, in any case of
letters. -/
def ownStart : String := "aws_autoconfig"

/-- The variable can be one of this library's own settings. -/
def isOwn (name : String) : Bool := ownStart.toList.isPrefixOf (Text.lower name).toList

/-- The variable can be a setting of a client. -/
def isVariable (name : String) : Bool := !keyVariables.contains name && !isOwn name

/-- The settings that a profile and the environment make. -/
def ofProfile (options : ProfileFile.Section) (env : Environment) : ClientSettings :=
  ⟨options.filter (!keyOptions.contains ·.1),
    fun name => if isVariable name then env.get? name else none⟩

end ClientSettings

/-! ### Rules -/

/-- What the SDK makes of settings: what stands against opening a session with them, what stands
against a client before its keys are loaded, and the region in whose endpoint the client works. What
the SDK looks at besides the settings, such as its own data files, is part of its rules. It never
fails as a provider does. -/
structure ClientRules where
  opening : ClientSettings → Option Failure
  before : ClientSettings → Option Failure
  endpoint : ClientSettings → Option String → Except Failure String
  foreign : ∀ settings failure,
    opening settings = some failure ∨ before settings = some failure ∨
      (∃ region, endpoint settings region = .error failure) → failure.isCredentials = false

/-- Every setting is taken, and the usual endpoint is used. -/
def ClientRules.usual : ClientRules where
  opening _ := none
  before _ := none
  endpoint _ := endpointRegion
  foreign _ failure h := by
    rcases h with h | h | ⟨region, h⟩
    · cases h
    · cases h
    · obtain ⟨_, rfl⟩ := endpointRegion_failure h
      rfl

instance : Inhabited ClientRules := ⟨.usual⟩

end CloudCredentials
