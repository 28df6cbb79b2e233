import CloudCredentials.Path

/-!
# Settings

What can be configured: the sources of credentials (`CredentialsProperties`) and the region
(`RegionProperties`). Every part has a default, so that settings without any value are complete.
-/

namespace CloudCredentials

/-- A named profile of a shared credentials file. Without a path the default files are meant. -/
structure ProfileProperties where
  name : Option String := none
  path : Option Path := none
  deriving DecidableEq, Repr, Inhabited

/-- Federation by a web identity token. What is absent is taken from the environment. -/
structure StsProperties where
  enabled : Bool := false
  roleArn : Option String := none
  tokenFile : Option Path := none
  asyncUpdate : Bool := false
  sessionName : Option String := none
  deriving DecidableEq, Repr, Inhabited

structure CredentialsProperties where
  accessKey : Option String := none
  secretKey : Option String := none
  instanceProfile : Bool := false
  profile : Option ProfileProperties := none
  sts : Option StsProperties := none
  deriving DecidableEq, Repr, Inhabited

structure RegionProperties where
  fixed : Option String := none
  deriving DecidableEq, Repr, Inhabited

structure Settings where
  credentials : CredentialsProperties := {}
  region : RegionProperties := {}
  deriving DecidableEq, Repr, Inhabited

end CloudCredentials
