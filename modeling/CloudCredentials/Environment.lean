import CloudCredentials.Path

/-!
# The environment

Environment variables in the order in which they were first set.
-/

namespace CloudCredentials

/-- Names and values of variables, each name once. -/
abbrev Environment := List (String × String)

namespace Environment

def get? (env : Environment) (name : String) : Option String := env.lookup name

/-- The value of a variable when it is set to something other than the empty text. -/
def nonempty? (env : Environment) (name : String) : Option String :=
  (get? env name).filter (· ≠ "")

/-- The environment with a variable set: a known name keeps its place, a new one goes to the
end. -/
def set (env : Environment) (name value : String) : Environment :=
  if env.any (·.1 = name) then env.map fun v => if v.1 = name then (name, value) else v
  else env ++ [(name, value)]

def unset (env : Environment) (name : String) : Environment := env.filter (·.1 ≠ name)

def change (env : Environment) (name : String) : Option String → Environment
  | some value => set env name value
  | none => unset env name

def home (env : Environment) : Option String := get? env "HOME"

def credentialsFileName : String := "AWS_SHARED_CREDENTIALS_FILE"

def configFileName : String := "AWS_CONFIG_FILE"

/-- The file that a variable names, or a file of the home directory (`default_credentials_file`,
`default_config_file`). The home directory has to be known in either case. -/
def fileOr (env : Environment) (variableName file : String) : Option Path := do
  let directory ← Path.home env.home
  let path := match env.get? variableName with
    | some text => Path.ofText text
    | none => directory.below [".aws", file]
  path.expandHome env.home

def defaultCredentialsFile (env : Environment) : Option Path :=
  fileOr env credentialsFileName "credentials"

def defaultConfigFile (env : Environment) : Option Path := fileOr env configFileName "config"

end Environment

end CloudCredentials
