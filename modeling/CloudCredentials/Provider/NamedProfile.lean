import CloudCredentials.ProfileFile.Lookup
import CloudCredentials.Provider.Backed

/-!
# Named profiles

Keys of a profile in the shared files (`ProfileCredentialsProvider`). With a path of its own a
provider reads that file only, as a credentials file; otherwise it reads the default credentials
file and then the default config file.
-/

namespace CloudCredentials

structure NamedProfile where
  profile : String
  path : Option Path
  deriving DecidableEq, Repr

/-- The path of a file as it is given to a provider: as a text, or as a path. -/
inductive FileName
  | text (s : String)
  | path (p : Path)
  deriving DecidableEq, Repr

namespace FileName

/-- The path that a name denotes; blank text denotes none. -/
def path? : FileName → Option Path
  | .text s => if Text.isBlank s then none else some (Path.ofText s)
  | .path p => some p

def plain : FileName → String
  | .text s => s
  | .path p => p.text

def literal : FileName → String
  | .text s => Text.quoted s
  | .path p => "PosixPath(" ++ Text.quoted p.text ++ ")"

end FileName

namespace NamedProfile

def name : String := "ProfileCredentialsProvider"

/-- A provider for a profile. The profile needs a name, and the path is looked up from the home
directory if it starts there. -/
def make (home : Option String) (profile : String) (file : Option FileName) :
    Except Failure NamedProfile :=
  if profile = "" then .error (.refused .noProfileName)
  else match file.bind FileName.path? with
    | none => .ok ⟨profile, none⟩
    | some path =>
      match path.expandHome home with
      | some path => .ok ⟨profile, some path⟩
      | none => .error .noHome

/-- The text for the place that a provider looks in. -/
def location (p : NamedProfile) : String := (p.path.map Path.text).getD "default"

def shown (p : NamedProfile) : String :=
  name ++ "(profile_name=" ++ Text.quoted p.profile ++ ", path=" ++ Text.quoted p.location ++ ")"

def recordFound (p : NamedProfile) (origin : String) (w : World) : World :=
  w.record .info .providers
    ("Found credentials for profile '" ++ p.profile ++ "' via " ++ origin)

def loadFrom (p : NamedProfile) (path : Path) (w : World) : Step (Option Keys) :=
  if w.files.isFile path.text then
    match ProfileFile.credentialsFileKeys w path.text p.profile with
    | .error failure => (.error failure, w)
    | .ok none => (.ok none, w)
    | .ok (some keys) => (.ok (some keys), p.recordFound ProfileFile.credentialsOrigin w)
  else (.error (.misuse name (.noProfileFile path.text)), w)

def loadDefault (p : NamedProfile) (w : World) : Step (Option Keys) :=
  match w.environment.defaultCredentialsFile, w.environment.defaultConfigFile with
  | some credentialsFile, some configFile =>
    match ProfileFile.credentialsFileKeys w credentialsFile.text p.profile with
    | .error failure => (.error failure, w)
    | .ok (some keys) => (.ok (some keys), p.recordFound ProfileFile.credentialsOrigin w)
    | .ok none =>
      match ProfileFile.configFileKeys w configFile.text p.profile with
      | .error failure => (.error failure, w)
      | .ok none => (.ok none, w)
      | .ok (some keys) => (.ok (some keys), p.recordFound ProfileFile.configOrigin w)
  | _, _ => (.error .noHome, w)

def load (p : NamedProfile) (w : World) : Step (Option Keys) :=
  match p.path with
  | some path => p.loadFrom path w
  | none => p.loadDefault w

def backing : Backing NamedProfile Keys where
  load p w :=
    let (found, w) := p.load w
    (found, p, w)
  use keys w := (.ok keys, keys, w)
  expiration _ := none

end NamedProfile

end CloudCredentials
