import CloudCredentials.ProfileFile.Lookup

/-!
# The active profile

The SDK's own view of the profile files: which profile is active, and what it says. The profiles
are collected from the config file and then from the credentials file, and are kept once the
config file has been read.
-/

namespace CloudCredentials

/-- A view of the profile files: the profile that was asked for, and the profiles found so far. -/
structure ActiveProfile where
  name : Option String := none
  known : Option ProfileFile.Sections := none
  deriving DecidableEq, Repr

namespace ActiveProfile

/-- The name of the active profile: the one asked for, else one from the environment. -/
def active? (a : ActiveProfile) (w : World) : Option String :=
  a.name <|> w.valueOf "AWS_DEFAULT_PROFILE" <|> w.valueOf "AWS_PROFILE"

def configFile (w : World) : String :=
  (w.valueOf Environment.configFileName).getD "~/.aws/config"

def credentialsFile (w : World) : String :=
  (w.valueOf Environment.credentialsFileName).getD "~/.aws/credentials"

/-- All profiles. When the credentials file cannot be parsed, the profiles of the config file are
kept for the next time. -/
def profiles (a : ActiveProfile) (w : World) :
    Except Failure ProfileFile.Sections × ActiveProfile :=
  match a.known with
  | some known => (.ok known, a)
  | none =>
    match ProfileFile.readSections w (configFile w) with
    | .error failure => (.error failure, a)
    | .ok config =>
      let found := (config.map ProfileFile.profilesOf).getD []
      match ProfileFile.readSections w (credentialsFile w) with
      | .error failure => (.error failure, { a with known := some found })
      | .ok credentials =>
        let all := ProfileFile.addSections found (credentials.getD [])
        (.ok all, { a with known := some all })

/-- What the active profile says. A profile that is named has to exist; without a name the default
profile counts, which may be missing. -/
def options (a : ActiveProfile) (w : World) :
    Except Failure ProfileFile.Section × ActiveProfile :=
  match a.profiles w with
  | (.error failure, a) => (.error failure, a)
  | (.ok profiles, a) =>
    match a.active? w with
    | none => (.ok ((profiles.lookup "default").getD []), a)
    | some name =>
      match profiles.lookup name with
      | some options => (.ok options, a)
      | none => (.error (.profileUnknown name), a)

/-- The region: the SDK's own variable, else what the active profile says. -/
def region (a : ActiveProfile) (w : World) : Except Failure (Option String) × ActiveProfile :=
  match w.valueOf "AWS_DEFAULT_REGION" with
  | some region => (.ok (some region), a)
  | none =>
    match a.options w with
    | (.error failure, a) => (.error failure, a)
    | (.ok options, a) => (.ok ((options.lookup "region").map Datum.plain), a)

end ActiveProfile

end CloudCredentials
