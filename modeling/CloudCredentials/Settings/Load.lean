import CloudCredentials.Settings.Check
import CloudCredentials.Settings.ConfigFile
import CloudCredentials.World

/-!
# Loading settings

Settings come from three sources (`load_settings`): the environment counts most, then a variable
file in the working directory, then a config file if one is named. The sources are merged name by
name, so that a source that sets a part of a section leaves the other parts to the sources that
count less.
-/

namespace CloudCredentials

/-! ### Sources -/

def variableFileName : String := ".env"

/-- The bytes of a file; without such a file there are none. -/
def bytesOf (files : Files) (name : String) : Except Failure (List UInt8) :=
  if files.isFile name then (files.read name).mapError Failure.file else .ok []

def fileVariables (w : World) : Except Failure Variables := do
  let bytes ← bytesOf w.files variableFileName
  let cs ← (Text.decodeUtf8 bytes).mapError Failure.encoding
  return Variables.lowerNames (Dotenv.read w.environment (Text.unifyLineEnds cs))

/-- The settings of the config file, below the home directory if its path starts there. -/
def configFileSettings (path : Path) (w : World) : Except Failure Mapping :=
  match path.expandHome w.environment.home with
  | none => .error .noHome
  | some path => (bytesOf w.files path.text).bind configSettings

/-! ### Merging the sources -/

def mergeSources (environment variableFile configFile : Mapping) : Mapping :=
  Mapping.over configFile (Mapping.over variableFile environment)

def gatherSettings (configFile : Option Path) (w : World) : Except Failure Mapping := do
  let assigned ← fileVariables w
  let lowest ← match configFile with
    | none => pure []
    | some path => configFileSettings path w
  let highest ← settingsOf environmentOrigin (Variables.ofEnvironment w.environment)
  let middle ← settingsOf variableFileOrigin assigned
  return mergeSources highest middle lowest

/-- The checked settings of all sources, reported under a title. -/
def settingsFrom (title : String) (configFile : Option Path) (w : World) :
    Except Failure Settings := do
  (checkSettings (← gatherSettings configFile w)).mapError (Failure.invalid title)

/-! ### Loading -/

/-- Load the settings, with those of a config file if one is named; that file has to exist. -/
def loadSettings (configFile : Option String) (w : World) : Step Settings :=
  match configFile with
  | none => (settingsFrom settingsTitle none w, w)
  | some name =>
    let path := Path.ofText name
    if w.files.isFile path.text then
      let w := w.record .debug .settings ("Loading settings from " ++ path.text)
      (settingsFrom fileSettingsTitle (some path) w, w)
    else (.error (.noConfigFile path.text), w)

theorem loadSettings_of_missing {name : String} {w : World}
    (h : w.files.isFile (Path.ofText name).text = false) :
    loadSettings (some name) w = (.error (.noConfigFile (Path.ofText name).text), w) := by
  simp [loadSettings, h]

end CloudCredentials
