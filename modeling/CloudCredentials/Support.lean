import CloudCredentials.World

/-!
# Support in the SDK

Some providers need a part of the SDK that older releases lack (`is_present`). A part is named by
its module and its own name, with a point between them. The SDK's modules and their parts are kept
in a table; the part that web identity tokens need is there only when the world has it.
-/

namespace CloudCredentials

namespace Support

/-! ### Names of parts -/

/-- A name is cut at its last point, into the module and the part. Without a point there is no
module. -/
def cut (name : List Char) : List Char × List Char :=
  let part := (name.reverse.takeWhile (· ≠ '.')).reverse
  (name.take (name.length - part.length - 1), part)

/-! ### The parts of the SDK -/

def credentialsModule : String := "botocore.credentials"

def commonParts : List String :=
  ["__class__", "__dict__", "__doc__", "__file__", "__loader__", "__name__", "__package__",
    "__spec__"]

def modules : List (String × List String) :=
  [ ("boto3", ["DEFAULT_SESSION", "NullHandler", "Session", "client", "compat", "exceptions",
      "resource", "session", "set_stream_logger", "setup_default_session", "utils"]),
    ("boto3.session", ["Session"]),
    ("boto3.exceptions", ["Boto3Error", "ResourceNotExistsError", "UnknownAPIVersionError"]),
    ("botocore", ["UNSIGNED", "args", "auth", "client", "compat", "config", "configloader",
      "credentials", "exceptions", "session", "tokens", "utils", "xform_name"]),
    ("botocore.client", ["BaseClient", "ClientCreator", "Config"]),
    ("botocore.config", ["Config"]),
    (credentialsModule, ["AssumeRoleCredentialFetcher", "AssumeRoleProvider",
      "AssumeRoleWithWebIdentityProvider", "BotoProvider", "CachedCredentialFetcher",
      "CanonicalNameCredentialSourcer", "ConfigProvider", "ContainerProvider",
      "CredentialProvider", "CredentialResolver", "Credentials", "DeferredRefreshableCredentials",
      "EnvProvider", "InstanceMetadataProvider", "JSONFileCache", "OriginalEC2Provider",
      "ProcessProvider", "ProfileProviderBuilder", "ReadOnlyCredentials",
      "RefreshableCredentials", "SSOCredentialFetcher", "SSOProvider", "SharedCredentialProvider",
      "create_assume_role_refresher", "create_credential_resolver", "get_credentials"]),
    ("botocore.exceptions", ["BotoCoreError", "ClientError", "ConfigNotFound", "ConfigParseError",
      "CredentialRetrievalError", "EndpointConnectionError", "InvalidConfigError",
      "InvalidRegionError", "MetadataRetrievalError", "NoCredentialsError", "NoRegionError",
      "PartialCredentialsError", "ProfileNotFound"]),
    ("botocore.session", ["Session", "SessionVarDict", "get_session"]),
    ("botocore.utils", ["FileWebIdentityTokenLoader", "IMDSFetcher",
      "InstanceMetadataFetcher"]) ]

def hasPart (module part : String) (w : World) : Bool :=
  if module = credentialsModule && part = Failure.webIdentityClass then w.webIdentity
  else
    match modules.lookup module with
    | some parts => commonParts.contains part || parts.contains part
    | none => false

/-- Whether the SDK has the part of a name. The name has to name a module, and not one that lies
beside another one. -/
def isPresent (name : String) (w : World) : Except Failure Bool :=
  let (module, part) := cut name.toList
  match module with
  | [] => .error (.refused .noModule)
  | '.' :: _ =>
    .error (.mismatch (.other ("the 'package' argument is required to perform a relative " ++
      "import for " ++ Text.quoted (String.ofList module))))
  | module => .ok (hasPart (String.ofList module) (String.ofList part) w)

end Support

end CloudCredentials
