import CloudCredentials.ActiveProfile
import CloudCredentials.Settings.Model

/-!
# Regions

Where the region for requests comes from (`get_region`): a fixed text, or a lookup in the
environment and in the active profile.
-/

namespace CloudCredentials

/-! ### Region providers -/

/-- A source of the region. A scripted source gives the answer it was made with. -/
inductive RegionProvider
  | fixed (region : String)
  | lookup (profile : Option String)
  | scripted (answer : Except Failure String)

namespace RegionProvider

/-- The provider of a fixed region, which must not be empty. -/
def ofText (region : String) : Except Failure RegionProvider :=
  if region = "" then .error (.refused .noRegion) else .ok (.fixed region)

/-- The provider that settings ask for: a fixed region when one is set, a lookup otherwise. -/
def ofProperties (properties : Option RegionProperties) : RegionProvider :=
  match properties.bind RegionProperties.fixed with
  | some region => if region = "" then .lookup none else .fixed region
  | none => .lookup none

def kindName : RegionProvider → String
  | .fixed _ => "StaticRegionProvider"
  | .lookup _ => "DefaultRegionProvider"
  | .scripted _ => "ScriptedRegion"

def shown : RegionProvider → String
  | .fixed region => "StaticRegionProvider(" ++ Text.quoted region ++ ")"
  | .lookup _ => "DefaultRegionProvider()"
  | .scripted _ => "ScriptedRegion()"

/-- The text that a lookup finds: the variable for the region first, then the SDK's own rule. -/
def find (profile : Option String) (w : World) : Except Failure (Option String) :=
  match w.environment.nonempty? "AWS_REGION" with
  | some region => .ok (some region)
  | none => (ActiveProfile.region { name := profile } w).1

def get : RegionProvider → World → Step String
  | .fixed region, w => (.ok region, w)
  | .lookup profile, w =>
    match find profile w with
    | .error failure => (.error failure, w)
    | .ok none => (.error (.regionNotFound Failure.regionAdvice), w)
    | .ok (some region) =>
      if region = "" then (.error (.regionNotFound Failure.regionAdvice), w)
      else (.ok region, w.record .debug .region ("Resolved AWS region '" ++ region ++ "'"))
  | .scripted answer, w => (answer, w.call .regionAsked)

end RegionProvider

end CloudCredentials
