import CloudCredentials.Files
import CloudCredentials.Settings.Problem
import CloudCredentials.Text.Utf8
import CloudCredentials.Time.Reading

/-!
# Failures

Everything that can go wrong, each failure by its cause. The wording of a failure is a function
of the cause; the predicates at the end sort failures into the families that callers tell apart:
the library's own (`AWSAutoconfigError`), those of providers (`CredentialsError`), those of the SDK
and those of the system.
-/

namespace CloudCredentials

/-! ### Causes in detail -/

/-- A fault of UTF-8 text in words: the bytes, where they are, and what is wrong with them. -/
def Text.Utf8Fault.message (f : Text.Utf8Fault) : String :=
  let reason := match f.reason with
    | .invalidStart => "invalid start byte"
    | .invalidContinuation => "invalid continuation byte"
    | .endOfData => "unexpected end of data"
  let place :=
    if f.width = 1 then
      "byte 0x" ++ String.ofList (Text.hexDigits 2 f.byte.toNat) ++ " in position " ++
        toString f.position
    else "bytes in position " ++ toString f.position ++ "-" ++
      toString (f.position + f.width - 1)
  "'utf-8' codec can't decode " ++ place ++ ": " ++ reason

/-- Why a source of credentials has none. -/
inductive Absence
  | nothing
  | incomplete
  | noTokenFile
  | other (detail : String)
  deriving DecidableEq, Repr

def Absence.detail : Absence → String
  | .nothing => ""
  | .incomplete => "credentials are incomplete"
  | .noTokenFile => "no web identity token file configured (AWS_WEB_IDENTITY_TOKEN_FILE)"
  | .other detail => detail

/-- Why a source of credentials cannot be asked. -/
inductive Misuse
  | noProfileFile (path : String)
  | noRole
  | other (message : String)
  deriving DecidableEq, Repr

inductive Refusal
  | noKeys
  | noProfileName
  | noRegion
  | noMembers
  | noModule
  | nullByte
  | badEndpoint (url : String)
  | other (message : String)
  deriving DecidableEq, Repr

def Refusal.message : Refusal → String
  | .noKeys => "access_key_id and secret_access_key are required"
  | .noProfileName => "profile_name is required"
  | .noRegion => "region must not be empty"
  | .noMembers => "A credentials provider chain needs at least one provider"
  | .noModule => "Empty module name"
  | .nullByte => "embedded null byte"
  | .badEndpoint url => "Invalid endpoint: " ++ url
  | .other message => message

inductive Mismatch
  | localTime
  | unreadableTime
  | frozen (name : String)
  | other (message : String)
  deriving DecidableEq, Repr

def Mismatch.message : Mismatch → String
  | .localTime => "can't subtract offset-naive and offset-aware datetimes"
  | .unreadableTime => "Parser must be a string or character stream, not NoneType"
  | .frozen name => "cannot assign to field " ++ Text.quoted name
  | .other message => message

/-- The stages of reading structured text at which a fault can be found. -/
inductive YamlStage
  | stream
  | token
  | grammar
  | node
  | value
  deriving DecidableEq, Repr

/-! ### Failures -/

/-- A failure by its cause. -/
inductive Failure
  | general (message : String)
  | regionNotFound (message : String)
  | misuse (provider : String) (reason : Misuse)
  /-- A provider looked for credentials and found none. -/
  | notFound (provider : String) (reason : Absence)
  /-- A provider failed while it loaded its source. -/
  | loading (provider : String) (cause : Failure)
  /-- A provider failed while it renewed its keys. -/
  | renewing (provider : String) (cause : Failure)
  | unavailable (attempts : List (String × Failure))
  | service (code operation message : String)
  | endpoint (url : String)
  /-- The instance metadata cannot be read. -/
  | metadata (message : String)
  /-- The active profile is in no file. -/
  | profileUnknown (name : String)
  | profileFile (path : String)
  /-- A source has an access key and lacks another key. -/
  | partialKeys (origin name : String)
  /-- A client is to be made for something that is no region. -/
  | invalidRegion (name : String)
  /-- What a source delivered on renewal lacks fields. -/
  | incompleteKeys (method : String) (names : List String)
  /-- A profile names a token file and no role. -/
  | profileWithoutRole
  /-- Any other failure of the SDK, by its kind. -/
  | sdk (kind message : String)
  | system (message : String)
  | file (fault : FileFault)
  | noConfigFile (path : String)
  | refused (reason : Refusal)
  | encoding (fault : Text.Utf8Fault)
  | time (fault : Time.ReadingFault)
  | source (field origin : String)
  | invalid (title : String) (problems : List Problem)
  /-- A fault in structured text. Its wording, which may quote the text, is not kept: two faults of
  one stage are the same failure. -/
  | yaml (stage : YamlStage)
  | missingField (name : String)
  | mismatch (reason : Mismatch)
  /-- A value has no such part. -/
  | noPart
  | noDigits
  | unsupported
  /-- The SDK's own lookup needs support for web identity tokens that it does not have. -/
  | unsupportedLookup
  /-- New keys have expired already. -/
  | stillExpired
  | noHome
  /-- Anything else. -/
  | runtime (message : String)

instance : Inhabited Failure := ⟨.stillExpired⟩

namespace Failure

/-- The name of the chain provider, in whose name a chain reports. -/
def chainName : String := "CredentialsProviderChain"

def webIdentityClass : String := "AssumeRoleWithWebIdentityCredentialFetcher"

def regionAdvice : String :=
  "Unable to determine the AWS region. Set AWS_REGION or configure a static region."

mutual

def message : Failure → String
  | .general text | .regionNotFound text => text
  | .misuse provider reason =>
    match reason with
    | .noProfileFile path => "Profile file " ++ path ++ " does not exist"
    | .noRole =>
      "A web identity token file is configured but no role ARN (AWS_ROLE_ARN)"
    | .other text => if text = "" then "Unable to load credentials from " ++ provider else text
  | .notFound provider reason =>
    "No credentials found by " ++ provider ++
      (if reason.detail = "" then "" else ": " ++ reason.detail)
  | .loading provider cause => provider ++ " failed to load credentials: " ++ cause.message
  | .renewing provider cause => provider ++ " failed to refresh credentials: " ++ cause.message
  | .unavailable attempts =>
    "Unable to load credentials from any of the providers in the chain:" ++
      attemptLines attempts
  | .service code operation text =>
    "An error occurred (" ++ code ++ ") when calling the " ++ operation ++ " operation: " ++ text
  | .endpoint url => "Could not connect to the endpoint URL: \"" ++ url ++ "\""
  | .metadata text => "Error retrieving metadata: " ++ text
  | .profileUnknown name => "The config profile (" ++ name ++ ") could not be found"
  | .profileFile path => "Unable to parse config file: " ++ path
  | .partialKeys origin name =>
    "Partial credentials found in " ++ origin ++ ", missing: " ++ name
  | .invalidRegion name =>
    "Provided region_name '" ++ name ++ "' doesn't match a supported format."
  | .incompleteKeys method names =>
    "Error when retrieving credentials from " ++ method ++
      ": Credential refresh failed, response did not contain: " ++ ", ".intercalate names
  | .profileWithoutRole =>
    "The provided profile or the current environment is configured to assume role with web " ++
      "identity but has no role ARN configured. Ensure that the profile has the role_arn" ++
      "configuration set or the AWS_ROLE_ARN env var is set."
  | .sdk _ text => text
  | .system text => text
  | .file fault => fault.message
  | .noConfigFile path => "Config file " ++ path ++ " does not exist"
  | .refused reason => reason.message
  | .encoding fault => fault.message
  | .time fault => fault.message
  | .source field origin =>
    "error parsing value for field \"" ++ field ++ "\" from source \"" ++ origin ++ "\""
  | .invalid title problems => problemsMessage title problems
  | .yaml _ => ""
  | .missingField name => Text.quoted name
  | .mismatch reason => reason.message
  | .noPart => ""
  | .noDigits => "string index out of range"
  | .unsupported =>
    "cannot import name '" ++ webIdentityClass ++ "' from 'botocore.credentials'"
  | .unsupportedLookup => "name '" ++ webIdentityClass ++ "' is not defined"
  | .stillExpired =>
    "Credentials were refreshed, but the refreshed credentials are still expired."
  | .noHome => "Could not determine home directory."
  | .runtime text => text

def attemptLines : List (String × Failure) → String
  | [] => ""
  | (name, failure) :: rest =>
    "\n  " ++ name ++ ": " ++ failure.message ++ attemptLines rest

end

/-- The wording of a general failure that was given some texts: nothing, the one text itself, or
the list of them. -/
def argumentsText : List String → String
  | [] => ""
  | [text] => text
  | texts => "(" ++ ", ".intercalate (texts.map Text.quoted) ++ ")"

/-! ### Families -/

/-- A provider could not produce credentials. -/
def isCredentials : Failure → Bool
  | .misuse .. | .notFound .. | .loading .. | .renewing .. | .unavailable _ => true
  | _ => false

/-- A failure that this library reports as its own. -/
def isOwn : Failure → Bool
  | .general _ | .regionNotFound _ => true
  | f => f.isCredentials

def isSdk : Failure → Bool
  | .service .. | .endpoint _ | .metadata _ | .profileUnknown _ | .profileFile _
  | .partialKeys .. | .invalidRegion _ | .incompleteKeys .. | .profileWithoutRole | .sdk .. => true
  | _ => false

def isSystem : Failure → Bool
  | .system _ | .file _ | .noConfigFile _ => true
  | _ => false

def isMissingFile : Failure → Bool
  | .file (.missing _) | .noConfigFile _ => true
  | _ => false

def isValue : Failure → Bool
  | .refused _ | .encoding _ | .time _ | .source .. | .invalid .. | .invalidRegion _ => true
  | _ => false

/-- The failures that a provider reports under its own name, with the failure as the cause. -/
def isWrapped (f : Failure) : Bool := f.isSdk || f.isSystem

/-- A provider's name in the failures that carry one. -/
def provider? : Failure → Option String
  | .misuse provider _ | .notFound provider _ | .loading provider _ | .renewing provider _ =>
    some provider
  | .unavailable _ => some chainName
  | _ => none

/-- The failure that a failure was caused by. -/
def cause? : Failure → Option Failure
  | .loading _ cause | .renewing _ cause => some cause
  | _ => none

end Failure

end CloudCredentials
