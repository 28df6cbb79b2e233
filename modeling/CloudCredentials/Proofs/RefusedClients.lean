import CloudCredentials.ClientPlan
import CloudCredentials.Proofs.FailureKinds

/-!
# How clients are refused

A client comes about in stages: a session is opened, the region is found and checked, the settings
are collected and looked at, and the endpoint is worked out. At each stage the profiles may not be
in order, or the SDK may refuse what it is given. For a kind of failures, the conditions under which
a stage ends in a failure of another kind.
-/

namespace CloudCredentials

/-! ### Failures of the profiles -/

/-- A profile file cannot be parsed, or the active profile is in none of them. -/
def Failure.IsOfProfiles (f : Failure) : Prop :=
  (∃ path, f = .profileFile path) ∨ ∃ name, f = .profileUnknown name

theorem ProfileFile.readSections_failure {w : World} {name : String} {failure : Failure}
    (h : readSections w name = .error failure) : failure.IsOfProfiles := by
  unfold readSections at h
  dsimp only at h
  split at h
  · cases h
  · split at h
    · cases h
    · cases h
      exact .inl ⟨_, rfl⟩

theorem ActiveProfile.profiles_failure {a : ActiveProfile} {w : World} {failure : Failure}
    (h : (a.profiles w).1 = .error failure) : failure.IsOfProfiles := by
  unfold profiles at h
  split at h
  · cases h
  · split at h
    · rename_i hr
      cases h
      exact ProfileFile.readSections_failure hr
    · dsimp only at h
      split at h
      · rename_i hr
        cases h
        exact ProfileFile.readSections_failure hr
      · cases h

theorem ActiveProfile.options_failure {a : ActiveProfile} {w : World} {failure : Failure}
    (h : (a.options w).1 = .error failure) : failure.IsOfProfiles := by
  unfold options at h
  rcases hp : a.profiles w with ⟨failure' | profiles, b⟩
  · rw [hp] at h
    cases h
    exact profiles_failure (by rw [hp])
  · rw [hp] at h
    dsimp only at h
    split at h
    · cases h
    · split at h
      · cases h
      · cases h
        exact .inr ⟨_, rfl⟩

/-! ### Conditions -/

/-- Some rule of the SDK finds the failure in the settings. -/
def ClientRules.Raises (rules : ClientRules) (settings : ClientSettings) (failure : Failure) :
    Prop :=
  rules.opening settings = some failure ∨ rules.before settings = some failure ∨
    ∃ region, rules.endpoint settings region = .error failure

section Conditions

variable (kind : Failure → Bool)

/-- A rule of the SDK refuses, with a failure of another kind. -/
def Refuses (refusal : Option Failure) : Prop :=
  ∃ failure, refusal = some failure ∧ kind failure = false

/-- The active profile cannot be seen, and the failure is of another kind. -/
def ProfilesEscape (a : ActiveProfile) (w : World) : Prop :=
  ∃ failure, (a.options w).1 = .error failure ∧ kind failure = false

/-- The condition under which the opening of a session ends in a failure of another kind: no
variable says where the SDK's data are, and the active profile cannot be seen or is refused. -/
def OpeningEscapes (a : ActiveProfile) (w : World) : Prop :=
  w.valueOf "AWS_DATA_PATH" = none ∧ (ProfilesEscape kind a w ∨
    After (a.options w) fun options _ =>
      Refuses kind (w.clients.opening (.ofProfile options w.environment)))

/-- The condition under which the search for a region does so: there is neither a given one nor one
in a variable, and the active profile cannot be seen. -/
def RegionEscapes (a : ActiveProfile) (region : Option String) (w : World) : Prop :=
  region = none ∧ w.valueOf "AWS_DEFAULT_REGION" = none ∧ ProfilesEscape kind a w

/-- The condition under which the beginning of a client does so: the search for its region does, the
active profile cannot be seen or the settings are refused. -/
def PlanEscapes (a : ActiveProfile) (region : Option String) (w : World) : Prop :=
  RegionEscapes kind a region w ∨ After (checkedRegion a region w) fun _ b =>
    ProfilesEscape kind b w ∨ After (b.options w) fun options _ =>
      Refuses kind (w.clients.before (.ofProfile options w.environment))

/-- The client has no endpoint, and the failure is of another kind. -/
def EndpointEscapes (plan : ClientPlan) (w : World) : Prop :=
  ∃ failure, plan.endpoint w = .error failure ∧ kind failure = false

/-- The condition under which a client that signs nothing does so: it cannot be begun, or it has no
endpoint. -/
def UnsignedEscapes (a : ActiveProfile) (region : Option String) (w : World) : Prop :=
  PlanEscapes kind a region w ∨ After (clientPlan a region w) fun plan _ =>
    EndpointEscapes kind plan w

/-- The condition under which a client from a session of its own does so. -/
def ClientEscapes (region : Option String) (w : World) : Prop :=
  OpeningEscapes kind {} w ∨ After (ActiveProfile.opened {} w) fun _ a =>
    UnsignedEscapes kind a region w

end Conditions

/-! ### The stages -/

section Stages

variable {kind : Failure → Bool}

theorem not_refuses_none : ¬ Refuses kind none := by
  rintro ⟨_, h, _⟩
  cases h

theorem refuses_some {failure : Failure} : Refuses kind (some failure) ↔ kind failure = false := by
  constructor
  · rintro ⟨_, h, hk⟩
    cases h
    exact hk
  · exact fun hk => ⟨failure, rfl, hk⟩

variable (a : ActiveProfile) (region : Option String) (w : World)

theorem options_failsOnly : FailsOnly kind (a.options w).1 ↔ ¬ ProfilesEscape kind a w :=
  failsOnly_iff_not_exists

theorem endpoint_failsOnly (plan : ClientPlan) :
    FailsOnly kind (plan.endpoint w) ↔ ¬ EndpointEscapes kind plan w :=
  failsOnly_iff_not_exists

/-- What a rule finds ends a stage, and else the stage is done. -/
theorem refusal_failsOnly {α : Type} {result : Except Failure α} {refusal : Option Failure}
    (hs : ∀ failure, refusal = some failure → result = .error failure)
    (hn : refusal = none → ∃ a, result = .ok a) :
    FailsOnly kind result ↔ ¬ Refuses kind refusal := by
  cases refusal with
  | none =>
    obtain ⟨a, ha⟩ := hn rfl
    rw [ha]
    exact iff_of_true (failsOnly_ok a) not_refuses_none
  | some failure =>
    rw [hs failure rfl, failsOnly_error, refuses_some, Bool.not_eq_false]

theorem opened_failsOnly : FailsOnly kind (a.opened w).1 ↔ ¬ OpeningEscapes kind a w := by
  unfold OpeningEscapes
  cases hv : w.valueOf "AWS_DATA_PATH" with
  | some place =>
    simp only [ActiveProfile.opened, hv]
    refine iff_of_true (failsOnly_ok ()) ?_
    rintro ⟨h, _⟩
    cases h
  | none =>
    rw [and_iff_right rfl]
    refine failsOnly_stage (options_failsOnly a w) ?_ ?_
    · intro failure b ho
      simp only [ActiveProfile.opened, hv, ho]
    · intro options b ho
      refine refusal_failsOnly ?_ ?_
      · intro failure hr
        simp only [ActiveProfile.opened, hv, ho, hr]
      · intro hr
        exact ⟨(), by simp only [ActiveProfile.opened, hv, ho, hr]⟩

variable (hregion : ∀ name, kind (.invalidRegion name) = true)

include hregion

theorem namedRegion_failsOnly (found : Option String) : FailsOnly kind (namedRegion found) := by
  unfold namedRegion
  split
  · exact (failsOnly_error _).mpr (hregion _)
  · exact failsOnly_ok found

theorem checkedRegion_failsOnly :
    FailsOnly kind (checkedRegion a region w).1 ↔ ¬ RegionEscapes kind a region w := by
  unfold RegionEscapes
  cases region with
  | some name =>
    refine iff_of_true (namedRegion_failsOnly hregion (some name)) ?_
    rintro ⟨h, _⟩
    cases h
  | none =>
    cases hv : w.valueOf "AWS_DEFAULT_REGION" with
    | some name =>
      simp only [checkedRegion, ActiveProfile.region, hv]
      refine iff_of_true (namedRegion_failsOnly hregion (some name)) ?_
      rintro ⟨_, h, _⟩
      cases h
    | none =>
      rw [and_iff_right rfl, and_iff_right rfl, ← options_failsOnly]
      rcases ho : a.options w with ⟨failure | options, b⟩
      · simp only [checkedRegion, ActiveProfile.region, hv, ho]
        exact (failsOnly_error failure).trans (failsOnly_error failure).symm
      · simp only [checkedRegion, ActiveProfile.region, hv, ho]
        exact iff_of_true (namedRegion_failsOnly hregion _) (failsOnly_ok options)

theorem clientPlan_failsOnly :
    FailsOnly kind (clientPlan a region w).1 ↔ ¬ PlanEscapes kind a region w := by
  refine failsOnly_stage (checkedRegion_failsOnly a region w hregion) ?_ ?_
  · intro failure b hr
    simp only [clientPlan, hr]
  intro found b hr
  refine failsOnly_stage (options_failsOnly b w) ?_ ?_
  · intro failure d ho
    simp only [clientPlan, hr, ho]
  · intro options d ho
    refine refusal_failsOnly ?_ ?_
    · intro failure hb
      simp only [clientPlan, hr, ho, hb]
    · intro hb
      exact ⟨⟨found, .ofProfile options w.environment⟩, by simp only [clientPlan, hr, ho, hb]⟩

theorem unsignedClient_failsOnly :
    FailsOnly kind (unsignedClient a region w).1 ↔ ¬ UnsignedEscapes kind a region w := by
  refine failsOnly_stage (clientPlan_failsOnly a region w hregion) ?_ ?_
  · intro failure b hp
    simp only [unsignedClient, hp]
  · intro plan b hp
    simp only [unsignedClient, hp, failsOnly_map]
    exact endpoint_failsOnly w plan

theorem freshClient_failsOnly :
    FailsOnly kind (freshClient region w) ↔ ¬ ClientEscapes kind region w := by
  refine failsOnly_stage (opened_failsOnly {} w) ?_ ?_
  · intro failure a ho
    simp only [freshClient, ho]
  · rintro ⟨⟩ a ho
    simp only [freshClient, ho]
    exact unsignedClient_failsOnly a region w hregion

end Stages

/-! ### Kinds that hold all failures -/

section Kinds

variable {kind : Failure → Bool} {w : World} (hprofiles : ∀ f, f.IsOfProfiles → kind f = true)

include hprofiles

theorem not_profilesEscape (a : ActiveProfile) : ¬ ProfilesEscape kind a w := by
  rintro ⟨failure, ho, hk⟩
  rw [hprofiles failure (ActiveProfile.options_failure ho)] at hk
  cases hk

variable (hrules : ∀ settings f, w.clients.Raises settings f → kind f = true)

include hrules

theorem not_openingEscapes (a : ActiveProfile) : ¬ OpeningEscapes kind a w := by
  rintro ⟨_, h | ⟨_, _, _, failure, hr, hk⟩⟩
  · exact not_profilesEscape hprofiles a h
  · rw [hrules _ failure (.inl hr)] at hk
    cases hk

theorem not_unsignedEscapes (a : ActiveProfile) (region : Option String) :
    ¬ UnsignedEscapes kind a region w := by
  rintro ((⟨_, _, h⟩ | ⟨_, _, _, h | ⟨_, _, _, failure, hr, hk⟩⟩) | ⟨_, _, _, failure, hr, hk⟩)
  · exact not_profilesEscape hprofiles _ h
  · exact not_profilesEscape hprofiles _ h
  · rw [hrules _ failure (.inr (.inl hr))] at hk
    cases hk
  · rw [hrules _ failure (.inr (.inr ⟨_, hr⟩))] at hk
    cases hk

theorem not_clientEscapes (region : Option String) : ¬ ClientEscapes kind region w := by
  rintro (h | ⟨_, a, _, h⟩)
  · exact not_openingEscapes hprofiles hrules _ h
  · exact not_unsignedEscapes hprofiles hrules a region h

end Kinds

end CloudCredentials
