import CloudCredentials.Data.Json
import CloudCredentials.Dotenv
import CloudCredentials.Failure
import CloudCredentials.Text.LowerCase

/-!
# Settings in variables

Settings can be given by variables, of the environment or of a variable file. A section of the
settings has a variable of its own, which holds JSON, and its parts have variables whose names
continue that name, two underscores before each step down. The variables of parts count more than
the variable of their section. Names count as equal but for case.
-/

namespace CloudCredentials

/-! ### Sections -/

inductive Section
  | credentials
  | region
  deriving DecidableEq, Repr

namespace Section

def all : List Section := [.credentials, .region]

def name : Section → String
  | .credentials => "credentials"
  | .region => "region"

def parts : Section → List String
  | .credentials => ["access_key", "secret_key", "instance_profile", "profile", "sts"]
  | .region => ["static"]

def groups : Section → List String
  | .credentials => ["profile", "sts"]
  | .region => []

/-- The name of a section's variable, in lower case. -/
def variableName (s : Section) : String := "aws_autoconfig_" ++ s.name

/-- The start of the names of the variables for the parts of a section. -/
def partStart (s : Section) : String := s.variableName ++ "__"

theorem mem_all (s : Section) : s ∈ all := by cases s <;> simp [all]

end Section

/-! ### Variables -/

/-- Variables in order; a variable of a file may be without a value. -/
abbrev Variables := Dotenv.Variables

namespace Variables

/-- Variables with their names in lower case. Of names that become equal the first one keeps its
place and the last one gives the value. -/
def lowerNames (vars : Variables) : Variables :=
  vars.foldl (fun found v => Dotenv.put found (Text.lower v.1) v.2) []

def ofEnvironment (env : Environment) : Variables :=
  lowerNames (env.map fun v => (v.1, some v.2))

def value? (vars : Variables) (name : String) : Option String := (vars.lookup name).join

end Variables

/-! ### Parts by name -/

def stepsFrom : List Char → List Char → List (List Char)
  | [], word => [word.reverse]
  | '_' :: '_' :: rest, word => word.reverse :: stepsFrom rest []
  | c :: rest, word => stepsFrom rest (c :: word)

def stepsOf (ending : List Char) : List String := (stepsFrom ending []).map String.ofList

/-- A mapping with a value at the end of some steps. Mappings come into being on the way; nothing
is put below something else. -/
def Mapping.putAt (m : Mapping) : List String → Value → Mapping
  | [], _ => m
  | [name], value => m.set name value
  | name :: rest, value =>
    match m.get? name with
    | none => m.set name (.map (putAt [] rest value))
    | some (.map inner) => m.set name (.map (putAt inner rest value))
    | some _ => m

/-- The value that a part is given: its text, except that the text of a group may be JSON. -/
def partValue (s : Section) (steps : List String) (text : Option String) : Value :=
  match text with
  | none => .null
  | some text =>
    match steps with
    | [name] => if s.groups.contains name then (Json.read? text).getD (.text text) else .text text
    | _ => .text text

/-- Put the value of a variable where its name says, if the name is one of a part. -/
def putPart (s : Section) (m : Mapping) (v : String × Option String) : Mapping :=
  let start := s.partStart.toList
  if start.isPrefixOf v.1.toList then
    let steps := stepsOf (v.1.toList.drop start.length)
    m.putAt steps (partValue s steps v.2)
  else m

def partsOf (s : Section) (vars : Variables) : Mapping := vars.foldl (putPart s) []

/-! ### Sections by variable -/

/-- A mapping in which the names of a section's parts are spelled as in the settings. -/
def spelled (s : Section) (m : Mapping) : Mapping :=
  .ofEntries (m.map fun entry =>
    match entry.1 with
    | .text name =>
      match s.parts.find? (Text.lower · = Text.lower name) with
      | some part => (.text part, entry.2)
      | none => entry
    | _ => entry)

/-- What variables say about a section. JSON that is not an object stands alone; null says
nothing. -/
def sectionOf (origin : String) (s : Section) (vars : Variables) : Except Failure (Option Value) :=
  let parts := partsOf s vars
  match vars.value? s.variableName with
  | none => .ok (if parts.isEmpty then none else some (.map (spelled s parts)))
  | some text =>
    match Json.read? text with
    | none => .error (.source s.name origin)
    | some .null => .ok none
    | some (.map m) => .ok (some (.map (spelled s (Mapping.over m parts))))
    | some value => .ok (some value)

def sectionsOf (origin : String) (vars : Variables) : List Section → Except Failure Mapping
  | [] => .ok []
  | s :: rest => do
    let value ← sectionOf origin s vars
    let others ← sectionsOf origin vars rest
    return (value.map (Value.text s.name, ·)).toList ++ others

def environmentOrigin : String := "EnvSettingsSource"

def variableFileOrigin : String := "DotEnvSettingsSource"

def settingsOf (origin : String) (vars : Variables) : Except Failure Mapping :=
  sectionsOf origin vars Section.all

end CloudCredentials
