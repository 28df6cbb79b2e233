import CloudCredentials.CommandLine.Run

/-!
# The program

Runs the command line in the environment of the process, with the files that the settings can lead
to. No request leaves the program: the services are out of reach for it.
-/

namespace CloudCredentials

namespace Program

/-! ### Reading the surroundings -/

/-- The bytes of a file, if it can be read. -/
def bytes? (name : String) : IO (Option (List UInt8)) := do
  try
    return some (← IO.FS.readBinFile name).toList
  catch _ => return none

/-- The text of a file; one that cannot be read is empty. -/
def textOf (name : String) : IO String := do
  return ((← bytes? name).bind Text.decodeUtf8?).getD ""

/-- The variables in the record that the system keeps for a process. -/
def variablesIn (record : String) : Environment :=
  (record.toList.splitOn (Char.ofNat 0)).filterMap fun entry =>
    match entry.dropWhile (· ≠ '=') with
    | _ :: value => some (String.ofList (entry.takeWhile (· ≠ '=')), String.ofList value)
    | [] => none

def numberIn (text : String) : Nat :=
  let digits := (text.toList.dropWhile (!·.isDigit)).takeWhile Char.isDigit
  (Number.natural? 10 digits).getD 0

/-- The time now: when the system started, and how long it has been up. -/
def now : IO Int := do
  let records := (← textOf "/proc/stat").splitOn "\n"
  let started := (records.find? fun r => "btime".toList.isPrefixOf r.toList).getD ""
  let up := numberIn (← textOf "/proc/uptime")
  return ((numberIn started + up : Nat) : Int) * Time.second

/-- The files of some names, as far as they can be read. -/
def addFiles : List String → Files → IO Files
  | [], files => return files
  | name :: rest, files => do
    match ← bytes? name with
    | some content => addFiles rest (files.put name (.file content))
    | none => addFiles rest files

/-! ### The world of a process -/

/-- The config file that a request names. -/
def configOf (arguments : List String) : Option String :=
  match CommandLine.request arguments with
  | .ok (.run _ _ config) => config
  | _ => none

/-- The names of a file whose path may start at the home directory. -/
def namesOf (home : Option String) (path : Path) : List String :=
  path.text :: ((path.expandHome home).map Path.text).toList

def firstNames (arguments : List String) (env : Environment) : List String :=
  let paths := (configOf arguments).toList.map Path.ofText ++ env.defaultCredentialsFile.toList ++
    env.defaultConfigFile.toList
  variableFileName :: (env.map Prod.snd ++ paths.flatMap (namesOf env.home))

def namedIn (home : Option String) (settings : Settings) : List String :=
  let profile := settings.credentials.profile.bind ProfileProperties.path
  let token := settings.credentials.sts.bind StsProperties.tokenFile
  (profile.toList ++ token.toList).flatMap (namesOf home)

/-- A service that cannot be reached. -/
def outOfReach (_operation : String) : Failure := .endpoint "https://sts.amazonaws.com/"

/-- The world that a command line runs in. -/
def surroundings (arguments : List String) : IO World := do
  let env := variablesIn (← textOf "/proc/self/environ")
  let files ← addFiles (firstNames arguments env) []
  let w : World :=
    { environment := env, files, clock := ← now,
      roles := [.error outOfReach], identity := [.error outOfReach] }
  match (loadSettings (configOf arguments) w).1 with
  | .ok settings =>
    let files ← addFiles (namedIn env.home settings) files
    return { w with files }
  | .error _ => return w

end Program

end CloudCredentials

open CloudCredentials in
def main (arguments : List String) : IO UInt32 := do
  let (report, w) := CommandLine.run arguments (← Program.surroundings arguments)
  let time := Time.dateText w.clock ++ " " ++ Time.timeOfDayText w.clock ++ ",000"
  IO.print report.output
  IO.eprint (report.errors time w.log)
  match report.unexpected with
  | some failure => IO.eprintln failure.message
  | none => pure ()
  return report.exitCode.toUInt32
