import CloudCredentials.CommandLine.Help
import CloudCredentials.Selection
import CloudCredentials.Session
import CloudCredentials.Settings.Load
import CloudCredentials.Text.Styles

/-!
# Running the command line

What a command line does to the world (`describe`, `validate`, `config_template`), and what it
reports: an exit code, a text for the user, a complaint, and the records that were logged on the
way. A failure that a command does not expect is reported as such.
-/

namespace CloudCredentials.CommandLine

/-! ### Reports -/

structure Report where
  exitCode : Nat
  output : String := ""
  complaint : String := ""
  debug : Bool := false
  unexpected : Option Failure := none

/-- The name under which a part of the library logs. -/
def channelName : Channel → String
  | .settings => "aws_autoconfig.config"
  | .region => "aws_autoconfig.region"
  | .resolver => "aws_autoconfig.credentials.resolver"
  | .providers => "aws_autoconfig.credentials.providers"
  | .session => "aws_autoconfig.credentials.session"

def levelWord : Level → String
  | .debug => "DEBUG"
  | .info => "INFO"
  | .warning => "WARNING"
  | .error => "ERROR"

/-- A record as a line, with the time at which it was logged. -/
def recordLine (time : String) (r : Record) : String :=
  time ++ " - " ++ channelName r.channel ++ " - " ++ levelWord r.level ++ " - " ++ r.text ++ "\n"

/-- What a run writes beside its output: the records, those of the lowest level only when they are
asked for, and the complaint. -/
def Report.errors (r : Report) (time : String) (log : List Record) : String :=
  String.join ((log.filter fun record => r.debug || record.level ≠ .debug).map (recordLine time)) ++
    r.complaint

def complaintLine (message : String) : String := Text.withoutStyles ("Error: " ++ message) ++ "\n"

def refusal (refused : Refused) : Report :=
  let (command, fault) := refused
  let usageLines := if fault.showsUsage then usage command ++ hint command ++ "\n" else ""
  match fault with
  | .noArguments => ⟨2, "", help none, false, none⟩
  | fault => ⟨2, "", usageLines ++ complaintLine fault.message, false, none⟩

/-! ### Commands -/

def isExpected (f : Failure) : Bool := f.isOwn || f.isMissingFile || f.isValue

/-- The failures that validation expects: those of the SDK too. -/
def isExpectedInValidation (f : Failure) : Bool := isExpected f || f.isSdk

/-- The provider that the settings ask for, and where the region comes from. -/
def configured (config : Option String) (w : World) : Step (Provider × RegionProvider) :=
  match loadSettings config w with
  | (.error failure, w) => (.error failure, w)
  | (.ok settings, w) =>
    let region := RegionProvider.ofProperties settings.region
    let (provider, w) := Selection.resolve none region.get unsignedFactory settings.credentials w
    (provider.map (·, region), w)

def describe (config : Option String) (w : World) : Step String :=
  match configured config w with
  | (.error failure, w) => (.error failure, w)
  | (.ok (provider, _), w) =>
    (.ok (String.join (provider.describe.map (· ++ "\n"))), (provider.close w).2)

/-- The account that a provider's credentials belong to, asked for in a session of its own. -/
def accountOf (provider : Provider) (region : RegionProvider) (w : World) :
    Except Failure Session.Account × Provider × World :=
  match Session.create (some region) w with
  | (.error failure, w) => (.error failure, provider, w)
  | (.ok session, w) =>
    let (account, _, provider, w) := session.account Provider.resolve provider w
    (account, provider, w)

def validationText (credentials : Credentials) (account : Session.Account) : String :=
  Text.withoutStyles
    ("✓ Credentials from " ++ credentials.provider.getD "None" ++ " are valid\n" ++
      "  Account ID: " ++ account.account.plain ++ "\n" ++
      "  ARN: " ++ account.arn.plain ++ "\n")

/-- Resolve the credentials of the configured provider and ask for their account. The provider is
closed in the end. -/
def validate (config : Option String) (w : World) : Step String :=
  match configured config w with
  | (.error failure, w) => (.error failure, w)
  | (.ok (provider, region), w) =>
    match provider.resolve w with
    | (.error failure, provider, w) => (.error failure, (provider.close w).2)
    | (.ok credentials, provider, w) =>
      let (account, provider, w) := accountOf provider region w
      (account.map (validationText credentials), (provider.close w).2)

/-! ### Runs -/

def conclude (expected : Failure → Bool) (debug : Bool) (result : Except Failure String) :
    Report :=
  match result with
  | .ok output => ⟨0, output, "", debug, none⟩
  | .error failure =>
    if expected failure then ⟨1, "", complaintLine failure.message, debug, none⟩
    else ⟨1, "", "", debug, some failure⟩

/-- Answer a request. -/
def answer (r : Request) (w : World) : Report × World :=
  match r with
  | .help command => (⟨0, help command, "", false, none⟩, w)
  | .run debug .configTemplate _ => (⟨0, template, "", debug, none⟩, w)
  | .run debug .describe config =>
    let (result, w) := describe config w
    (conclude isExpected debug result, w)
  | .run debug .validate config =>
    let (result, w) := validate config w
    (conclude isExpectedInValidation debug result, w)

def run (arguments : List String) (w : World) : Report × World :=
  match request arguments with
  | .error refused => (refusal refused, w)
  | .ok r => answer r w

end CloudCredentials.CommandLine
