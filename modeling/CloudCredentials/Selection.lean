import CloudCredentials.ClientPlan
import CloudCredentials.Provider.Source
import CloudCredentials.Region

/-!
# Selecting a provider

The provider that settings ask for (`CredentialsProviderResolver`). The configured sources are taken
in a fixed order: fixed keys, instance metadata, named profile, web identity federation. No source
gives the standard lookup, one source is the provider itself, and several make a chain.
-/

namespace CloudCredentials

/-! ### Clients for federation -/

abbrev ClientFactory := String → World → Step Client

/-- The SDK's own factory: a client that signs nothing, from a session of its own. -/
def unsignedFactory : ClientFactory := fun region w => (freshClient (some region) w, w)

/-- A factory that only records the region that it is asked for. -/
def recordingFactory : ClientFactory := fun region w =>
  (.ok ⟨region, .plain⟩, w.call (.clientMade region))

namespace Selection

/-! ### Which sources are selected -/

def wantsFixed (p : CredentialsProperties) : Bool :=
  Text.hasText p.accessKey && Text.hasText p.secretKey

/-- The named profile that is selected: one whose name has text. -/
def wantedProfile? (p : CredentialsProperties) : Option (String × Option Path) :=
  p.profile.bind fun profile =>
    if Text.hasText profile.name then profile.name.map (·, profile.path) else none

/-- The part of the SDK that federation needs. -/
def supportName : String := "botocore.credentials." ++ Failure.webIdentityClass

/-- Whether federation is supported: as given, or as the SDK has it. Missing support is
recorded. -/
def support (given : Option Bool) (w : World) : Bool × World :=
  if given.getD w.webIdentity then (true, w)
  else (false, w.record .debug .resolver ("Unable to find " ++ supportName ++
    ". Consider upgrading botocore to use STS web identity credentials"))

/-! ### Making the sources -/

/-- The source of fixed keys, if it is selected. -/
def fixedSources (p : CredentialsProperties) : Except Failure (List Source) :=
  if wantsFixed p then
    (Source.ofKeys ⟨.ofOption p.accessKey, .ofOption p.secretKey, .absent⟩).map ([·])
  else .ok []

/-- The source of the instance metadata, if it is selected. -/
def instanceSources (p : CredentialsProperties) : List Source :=
  if p.instanceProfile then [Source.ofInstance] else []

/-- The source of the named profile, if it is selected. -/
def profileSources (p : CredentialsProperties) (w : World) : Except Failure (List Source) :=
  match wantedProfile? p with
  | none => .ok []
  | some (profile, path) =>
    (Source.ofProfile w.environment.home profile (path.map .path)).map ([·])

def refreshInterval : Int := 60 * Time.second

/-- The parameters of federation with a client. -/
def federation (sts : StsProperties) (client : Client) : WebIdentity :=
  ⟨client, sts.roleArn, sts.tokenFile.map .path, sts.sessionName, sts.asyncUpdate⟩

/-- The source of federation: the region is looked up and a client is made for it. -/
def federationSource (region : World → Step String) (factory : ClientFactory)
    (sts : StsProperties) (w : World) : Step Source :=
  let w := w.record .debug .resolver "Creating StsWebIdentityCredentialsProvider"
  match region w with
  | (.error failure, w) => (.error failure, w)
  | (.ok region, w) =>
    match factory region w with
    | (.error failure, w) => (.error failure, w)
    | (.ok client, w) => (.ok (.ofWebIdentity (federation sts client) refreshInterval), w)

/-- The source of federation, if it is selected. Support is looked at whenever federation is
mentioned in the settings. -/
def federationSources (available : Option Bool) (region : World → Step String)
    (factory : ClientFactory) (p : CredentialsProperties) (w : World) : Step (List Source) :=
  match p.sts with
  | none => (.ok [], w)
  | some sts =>
    let (supported, w) := support available w
    if supported && sts.enabled then
      let (source, w) := federationSource region factory sts w
      (source.map ([·]), w)
    else (.ok [], w)

/-! ### The provider -/

def providerOf : List Source → Provider
  | [] => .leaf (.ofStandard none)
  | [source] => .leaf source
  | sources => .chain (sources.map .leaf)

/-- The sources that settings ask for, in order. -/
def sources (available : Option Bool) (region : World → Step String) (factory : ClientFactory)
    (p : CredentialsProperties) (w : World) : Step (List Source) :=
  match fixedSources p with
  | .error failure => (.error failure, w)
  | .ok fixed =>
    match profileSources p w with
    | .error failure => (.error failure, w)
    | .ok profile =>
      match federationSources available region factory p w with
      | (.error failure, w) => (.error failure, w)
      | (.ok federation, w) => (.ok (fixed ++ instanceSources p ++ profile ++ federation), w)

def resolve (available : Option Bool) (region : World → Step String) (factory : ClientFactory)
    (p : CredentialsProperties) (w : World) : Step Provider :=
  let (found, w) := sources available region factory p w
  (found.map providerOf, w)

end Selection

end CloudCredentials
