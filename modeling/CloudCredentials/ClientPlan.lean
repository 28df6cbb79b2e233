import CloudCredentials.ActiveProfile

/-!
# Clients

How a client of the token service comes about. The SDK's session is opened, the region is found and
checked, and the settings are collected and looked at; then the keys of the client are loaded,
unless it signs nothing, and the endpoint is worked out.
-/

namespace CloudCredentials

/-- Open the SDK's session. It looks for the place of its own data, in the active profile unless a
variable names it; the profile has to exist then. -/
def ActiveProfile.opened (a : ActiveProfile) (w : World) : Except Failure Unit × ActiveProfile :=
  match w.valueOf "AWS_DATA_PATH" with
  | some _ => (.ok (), a)
  | none =>
    match a.options w with
    | (.error failure, a) => (.error failure, a)
    | (.ok options, a) =>
      match w.clients.opening (.ofProfile options w.environment) with
      | some failure => (.error failure, a)
      | none => (.ok (), a)

/-- A client in the making: its region, which may be left to the endpoint, and its settings. -/
structure ClientPlan where
  region : Option String
  settings : ClientSettings

/-- What was found as the region, which has to be the name of one. -/
def namedRegion (found : Option String) : Except Failure (Option String) :=
  match found.filter (!isRegionName ·) with
  | some region => .error (.invalidRegion region)
  | none => .ok found

theorem namedRegion_of_name {region : String} (h : isRegionName region = true) :
    namedRegion (some region) = .ok (some region) := by
  simp [namedRegion, Option.filter_some, h]

theorem namedRegion_of_not_name {region : String} (h : isRegionName region = false) :
    namedRegion (some region) = .error (.invalidRegion region) := by
  simp [namedRegion, Option.filter_some, h]

/-- The region of a client: the one given, else the SDK's own rule. -/
def checkedRegion (a : ActiveProfile) (region : Option String) (w : World) :
    Except Failure (Option String) × ActiveProfile :=
  let found : Except Failure (Option String) × ActiveProfile :=
    match region with
    | some region => (.ok (some region), a)
    | none => a.region w
  match found with
  | (.error failure, a) => (.error failure, a)
  | (.ok found, a) => (namedRegion found, a)

/-- Begin a client: the active profile has to exist, and nothing may stand against the settings. -/
def clientPlan (a : ActiveProfile) (region : Option String) (w : World) :
    Except Failure ClientPlan × ActiveProfile :=
  match checkedRegion a region w with
  | (.error failure, a) => (.error failure, a)
  | (.ok region, a) =>
    match a.options w with
    | (.error failure, a) => (.error failure, a)
    | (.ok options, a) =>
      let settings := ClientSettings.ofProfile options w.environment
      match w.clients.before settings with
      | some failure => (.error failure, a)
      | none => (.ok ⟨region, settings⟩, a)

/-- The region in whose endpoint a client works. -/
def ClientPlan.endpoint (plan : ClientPlan) (w : World) : Except Failure String :=
  w.clients.endpoint plan.settings plan.region

/-- A client that signs nothing. -/
def unsignedClient (a : ActiveProfile) (region : Option String) (w : World) :
    Except Failure Client × ActiveProfile :=
  match clientPlan a region w with
  | (.error failure, a) => (.error failure, a)
  | (.ok plan, a) => ((plan.endpoint w).map (⟨·, .unsigned⟩), a)

/-- A client that signs nothing, from a session of its own (`create_sts_client`). -/
def freshClient (region : Option String) (w : World) : Except Failure Client :=
  match ActiveProfile.opened {} w with
  | (.error failure, _) => .error failure
  | (.ok (), a) => (unsignedClient a region w).1

end CloudCredentials
