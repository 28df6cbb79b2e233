import CloudCredentials.Failure

/-!
# Endpoints

The names of regions, and the address of the token service in a region. The name becomes part of a
host name; the domain that follows it depends on the area in which the region lies.
-/

namespace CloudCredentials

/-! ### Names of regions -/

def isRegionChar (c : Char) : Bool := c.isAlphanum || c = '-'

/-- The characters can be part of a host name, or are none: at most 63 letters, digits and hyphens,
and no hyphen at either end. -/
def isHostPart (cs : List Char) : Bool :=
  cs.all isRegionChar && cs.length ≤ 63 && cs.head? ≠ some '-' && cs.getLast? ≠ some '-'

/-- The characters of a region's name; a line feed at the end does not count. -/
def regionChars (region : String) : List Char :=
  let cs := region.toList
  if cs.getLast? = some '\n' then cs.dropLast else cs

/-- A name that can be part of a host name and has not digits only. -/
def isRegionName (region : String) : Bool :=
  let cs := regionChars region
  isHostPart cs && (cs.isEmpty || !cs.all Char.isDigit)

/-! ### Endpoints of the token service -/

def allRegions : String := "aws-global"

/-- The domain of the regions that lie in no area with a domain of its own. -/
def usualDomain : String := "amazonaws.com"

/-- The areas with a domain of their own, by the words that their regions' names start with. -/
def areas : List (List String × String) :=
  [ (["cn"], "amazonaws.com.cn"), (["us", "iso"], "c2s.ic.gov"), (["us", "isob"], "sc2s.sgov.gov"),
    (["us", "isof"], "csp.hci.ic.gov"), (["eu", "isoe"], "cloud.adc-e.uk"),
    (["eusc", "de"], "amazonaws.eu") ]

/-- A region lies in an area: its name has the area's words, one more word and a number. -/
def isInArea (region : String) (area : List String) : Bool :=
  let words := (regionChars region).splitOn '-'
  words.take area.length = area.map String.toList &&
    match words.drop area.length with
    | [place, number] => !place.isEmpty && !number.isEmpty && number.all Char.isDigit
    | _ => false

def domainOf (region : String) : String :=
  match areas.find? fun area => isInArea region area.1 with
  | some area => area.2
  | none => usualDomain

def tokenEndpoint (region : String) : String :=
  if region = allRegions then "https://sts." ++ usualDomain
  else "https://sts." ++ region ++ "." ++ domainOf region

/-- The region that a client works in: without one, the service for all regions is used. The name
of the region has to make an address. -/
def endpointRegion (region : Option String) : Except Failure String :=
  match region with
  | none => .ok allRegions
  | some region =>
    if !region.isEmpty && isHostPart region.toList then .ok region
    else .error (.refused (.badEndpoint (tokenEndpoint region)))

theorem endpointRegion_failure {region : Option String} {failure : Failure}
    (h : endpointRegion region = .error failure) :
    ∃ url, failure = .refused (.badEndpoint url) := by
  unfold endpointRegion at h
  split at h
  · cases h
  · split at h
    · cases h
    · cases h
      exact ⟨_, rfl⟩

end CloudCredentials
