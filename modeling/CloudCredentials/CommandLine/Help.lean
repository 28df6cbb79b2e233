import CloudCredentials.CommandLine.Arguments

/-!
# Help

The texts that say how the program and its commands are used, and the template of a config file.
-/

namespace CloudCredentials.CommandLine

/-! ### Usage -/

def programName : String := "aws-autoconfig"

def invocation : Option Command → String
  | none => programName
  | some command => programName ++ " " ++ command.name

def usage (command : Option Command) : String :=
  "Usage: " ++ invocation command ++
    (if command.isNone then " [OPTIONS] COMMAND [ARGS]..." else " [OPTIONS]") ++ "\n"

def hint (command : Option Command) : String :=
  "Try '" ++ invocation command ++ " --help' for help.\n"

/-- A fault of the arguments is shown with the usage, unless it is one of an option's value. -/
def Fault.showsUsage : Fault → Bool
  | .missingValue _ | .needlessValue _ => false
  | _ => true

/-! ### Descriptions -/

def programPurpose : String := "Resolve AWS credentials providers from configuration."

def Command.purpose : Command → String
  | .configTemplate => "Generate a config file template."
  | .describe => "Show which credentials provider the configuration resolves to."
  | .validate => "Resolve credentials and check them against STS."

/-- What a command does, in the space of the list of commands. -/
def Command.summary : Command → String
  | .describe => "Show which credentials provider the configuration..."
  | command => command.purpose

/-- The names of an option, with the kind of its value. -/
def Switch.form (s : Switch) : String :=
  (match s.short? with
    | some letter => "-" ++ String.ofList [letter] ++ ", "
    | none => "") ++ s.long ++ (if s.takesValue then " PATH" else "")

def Switch.purpose : Switch → String
  | .debug => "Enable debug logging"
  | .config => "Config file path"
  | .help => "Show this message and exit."

/-! ### Tables -/

def padTo (width : Nat) (s : String) : String :=
  s ++ String.ofList (List.replicate (width - s.length) ' ')

def table (heading : String) (rows : List (String × String)) : String :=
  let width := (rows.map fun row => row.1.length).foldl max 0
  heading ++ ":\n" ++ String.join (rows.map fun row =>
    "  " ++ padTo width row.1 ++ "  " ++ row.2 ++ "\n")

def optionTable (switches : List Switch) : String :=
  table "Options" (switches.map fun s => (s.form, s.purpose))

def help : Option Command → String
  | none =>
    usage none ++ "\n  " ++ programPurpose ++ "\n\n" ++ optionTable programSwitches ++ "\n" ++
      table "Commands" (Command.all.map fun command => (command.name, command.summary))
  | some command =>
    usage (some command) ++ "\n  " ++ command.purpose ++ "\n\n" ++ optionTable command.switches

/-! ### The template -/

def template : String :=
  "# aws-autoconfig configuration\n" ++
  "# Any value can be overridden with AWS_AUTOCONFIG_<SECTION>__<KEY> variables.\n" ++
  "\n" ++
  "credentials:\n" ++
  "  # Static keys, only used when both are set\n" ++
  "  # access_key: YOUR_ACCESS_KEY\n" ++
  "  # secret_key: YOUR_SECRET_KEY\n" ++
  "  instance_profile: false\n" ++
  "  profile:\n" ++
  "    name: default\n" ++
  "    # path: /etc/aws/credentials\n" ++
  "  sts:\n" ++
  "    enabled: false\n" ++
  "    # role_arn: arn:aws:iam::123456789012:role/my-role\n" ++
  "    # web_identity_token_file: /var/run/secrets/eks.amazonaws.com/serviceaccount/token\n" ++
  "    # role_session_name: my-app\n" ++
  "    async_credentials_update: false\n" ++
  "\n" ++
  "region:\n" ++
  "  static: eu-west-1\n"

end CloudCredentials.CommandLine
