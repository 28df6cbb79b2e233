import CloudCredentials.Proofs.RefusedClients
import CloudCredentials.Proofs.StrayFailures

/-!
# Stray failures of the standard lookup

The conditions under which the standard lookup ends in a stray failure: in the environment, at a
web identity that cannot be used, at the instance metadata, when no client can be made, or when the
SDK ends the look, or renews what it has found elsewhere, in that way.
-/

namespace CloudCredentials

/-! ### The view of the profiles -/

theorem ActiveProfile.options_strays (a : ActiveProfile) (w : World) :
    ¬ Strays (a.options w).1 := by
  rintro ⟨failure, h, hw, _⟩
  rcases options_failure h with ⟨_, rfl⟩ | ⟨_, rfl⟩
  · cases hw
  · cases hw

/-! ### The environment -/

namespace EnvironmentKeys

theorem required_strays (env : Environment) (name : String) : ¬ Strays (required env name) := by
  unfold required
  split
  · exact strays_ok _
  · exact not_strays_of_isWrapped rfl

theorem keys_strays (env : Environment) : ¬ Strays (keys env) :=
  not_strays_bind (required_strays _ _) fun _ =>
    not_strays_bind (required_strays _ _) fun _ => strays_ok _

theorem delivery_strays (env : Environment) : ¬ Strays (delivery env) :=
  not_strays_bind (keys_strays _) fun _ =>
    not_strays_bind (required_strays _ _) fun _ => strays_ok _

def Breaks (env : Environment) : Prop :=
  ∃ found expiry, keys env = .ok found ∧ env.nonempty? expiryName = some expiry ∧
    (ExpiryField.field (.text expiry)).IsUnreadable

theorem nonempty_of_keys {env : Environment} {found : Keys} (h : keys env = .ok found) :
    env.nonempty? "AWS_ACCESS_KEY_ID" ≠ none := by
  intro hn
  simp only [keys, required, hn] at h
  cases h

end EnvironmentKeys

namespace Standard

theorem inEnvironment_strays (w : World) :
    Strays (inEnvironment w) ↔ EnvironmentKeys.Breaks w.environment := by
  have hk := EnvironmentKeys.keys_strays w.environment
  unfold inEnvironment EnvironmentKeys.Breaks
  split
  · rename_i hn
    refine iff_of_false (strays_ok _) ?_
    rintro ⟨found, _, h, _⟩
    exact EnvironmentKeys.nonempty_of_keys h hn
  · cases he : EnvironmentKeys.keys w.environment with
    | error failure =>
      rw [he] at hk
      refine iff_of_false (not_strays_of_error hk) ?_
      rintro ⟨_, _, h, _⟩
      cases h
    | ok keys =>
      dsimp only
      cases hx : w.environment.nonempty? EnvironmentKeys.expiryName with
      | none =>
        refine iff_of_false (strays_ok _) ?_
        rintro ⟨_, _, _, h, _⟩
        cases h
      | some expiry =>
        dsimp only
        rw [strays_map, ExpiryField.read_strays]
        constructor
        · intro h
          exact ⟨keys, expiry, rfl, rfl, h⟩
        · rintro ⟨_, _, _, h, hu⟩
          cases h
          exact hu

/-! ### Web identity and clients -/

/-- A role is to be assumed with a token, and there is no support for that. -/
def IdentityBreaks (a : ActiveProfile) (options : ProfileFile.Section) (w : World) : Prop :=
  w.webIdentity = false ∧
  (identitySetting a options w "AWS_WEB_IDENTITY_TOKEN_FILE" "web_identity_token_file").filter
    (· ≠ "") ≠ none ∧
  (identitySetting a options w "AWS_ROLE_ARN" "role_arn").filter (· ≠ "") ≠ none

theorem inWebIdentity_strays (a : ActiveProfile) (options : ProfileFile.Section) (w : World) :
    Strays (inWebIdentity a options w) ↔ IdentityBreaks a options w := by
  unfold inWebIdentity IdentityBreaks
  dsimp only
  split
  · rename_i hn
    exact iff_of_false (strays_ok _) fun ⟨_, h, _⟩ => h hn
  · rename_i ht
    split
    · rename_i hn
      exact iff_of_false (not_strays_of_isWrapped rfl) fun ⟨_, _, h⟩ => h hn
    · rename_i hr
      cases w.webIdentity with
      | false =>
        refine iff_of_true ⟨_, rfl, rfl, rfl⟩ ⟨rfl, ?_, ?_⟩
        · rw [ht]
          exact Option.some_ne_none _
        · rw [hr]
          exact Option.some_ne_none _
      | true => exact iff_of_false (strays_ok _) fun ⟨h, _⟩ => Bool.noConfusion h

/-- Making the client that assumes a role ends in a stray failure when it is refused with one. -/
theorem client_strays (a : ActiveProfile) (w : World) :
    Strays (client a w) ↔ UnsignedEscapes Failure.isHandled a none w := by
  rw [strays_iff_not_failsOnly, client, unsignedClient_failsOnly a none w fun _ => rfl,
    Classical.not_not]

/-! ### The whole lookup -/

def profileName (a : ActiveProfile) (w : World) : String :=
  match a.active? w with
  | some name => if name = "" then "default" else name
  | none => "default"

/-- The condition under which the places that need no service end in a stray failure. -/
def PlacesBreak (a : ActiveProfile) (profiles : ProfileFile.Sections) (w : World) : Prop :=
  (a.name = none ∧ EnvironmentKeys.Breaks w.environment) ∨
    ((a.name = none → inEnvironment w = .ok none) ∧
      IdentityBreaks a ((profiles.lookup (profileName a w)).getD []) w)

theorem inFiles_strays (profile : String) (w : World) : ¬ Strays (inFiles profile w) := by
  have hk := ProfileFile.credentialsFileKeys_strays w (ActiveProfile.credentialsFile w) profile
  unfold inFiles
  split
  · rename_i failure he
    rw [he] at hk
    exact hk
  · exact strays_ok _
  · exact ProfileFile.configFileKeys_strays _ _ _

def inOthers (a : ActiveProfile) (options : ProfileFile.Section) (profile : String) (w : World) :
    Except Failure (Option StandardKeys) :=
  match inWebIdentity a options w with
  | .error failure => .error failure
  | .ok (some found) => .ok (some found)
  | .ok none => (inFiles profile w).map (·.map .fixed)

theorem inOthers_strays (a : ActiveProfile) (options : ProfileFile.Section) (profile : String)
    (w : World) : Strays (inOthers a options profile w) ↔ IdentityBreaks a options w := by
  rw [← inWebIdentity_strays]
  unfold inOthers
  cases inWebIdentity a options w with
  | error failure => simp only [strays_error]
  | ok found =>
    cases found with
    | some found => exact iff_of_false (strays_ok _) (strays_ok _)
    | none =>
      refine iff_of_false ?_ (strays_ok _)
      rw [strays_map]
      exact inFiles_strays profile w

theorem inPlaces_eq (a : ActiveProfile) (profiles : ProfileFile.Sections) (w : World) :
    inPlaces a profiles w =
      match if a.name.isSome then .ok none else inEnvironment w with
      | .error failure => .error failure
      | .ok (some found) => .ok (some found)
      | .ok none =>
        inOthers a ((profiles.lookup (profileName a w)).getD []) (profileName a w) w := rfl

theorem inPlaces_strays (a : ActiveProfile) (profiles : ProfileFile.Sections) (w : World) :
    Strays (inPlaces a profiles w) ↔ PlacesBreak a profiles w := by
  have hothers := inOthers_strays a ((profiles.lookup (profileName a w)).getD [])
    (profileName a w) w
  rw [inPlaces_eq]
  unfold PlacesBreak
  rw [← inEnvironment_strays, ← hothers]
  cases a.name with
  | some name => simp
  | none =>
    cases inEnvironment w with
    | error failure => simp
    | ok found => cases found <;> simp

/-- The condition under which a look in the described places ends in a stray failure: the active
profile exists, and it does so at one of the places, or at the metadata when the other places have
nothing. -/
def PlacesLookBreaks (a : ActiveProfile) (w : World) : Prop :=
  ∃ options b, a.options w = (.ok options, b) ∧
    (PlacesBreak b (b.known.getD []) w ∨
      inPlaces b (b.known.getD []) w = .ok none ∧ InstanceProfile.LookBreaks w)

theorem lookInPlaces_strays (a : ActiveProfile) (w : World) :
    Strays (lookInPlaces a w).1 ↔ PlacesLookBreaks a w := by
  have ho := a.options_strays w
  unfold lookInPlaces PlacesLookBreaks
  rcases hx : a.options w with ⟨answer, b⟩
  rw [hx] at ho
  cases answer with
  | error failure =>
    refine iff_of_false (not_strays_of_error ho) ?_
    rintro ⟨_, _, h, _⟩
    cases h
  | ok options =>
    -- the view that the profiles leave is the only one to look at
    have unique : (∃ options' b', ((.ok options : Except Failure ProfileFile.Section), b) =
        (.ok options', b') ∧ (PlacesBreak b' (b'.known.getD []) w ∨
          inPlaces b' (b'.known.getD []) w = .ok none ∧ InstanceProfile.LookBreaks w)) ↔
        (Strays (inPlaces b (b.known.getD []) w) ∨
          inPlaces b (b.known.getD []) w = .ok none ∧ Strays (InstanceProfile.load w).1) := by
      rw [inPlaces_strays, InstanceProfile.load_strays]
      constructor
      · rintro ⟨_, _, h, hb⟩
        cases h
        exact hb
      · intro hb
        exact ⟨_, _, rfl, hb⟩
    rw [unique]
    dsimp only
    cases inPlaces b (b.known.getD []) w with
    | error failure => simp
    | ok found => cases found <;> simp

/-- The condition under which a look ends in a stray failure: the SDK ends it so, or says nothing
and the look in the described places does. -/
def LookBreaks (a : ActiveProfile) (w : World) : Prop :=
  (∃ failure, (w.looks.next none).1 = some (.error failure) ∧ failure.IsStray) ∨
    (w.looks.next none).1 = none ∧ PlacesLookBreaks (view a) (w.answered .look)

theorem load_strays (a : ActiveProfile) (w : World) : Strays (load a w).1 ↔ LookBreaks a w := by
  unfold LookBreaks
  rcases load_cases a w with ⟨hn, hl⟩ | ⟨look, hs, hl⟩
  · rw [hl, hn, lookInPlaces_strays]
    simp
  · rw [hl, hs, strays_map]
    cases look with
    | error failure => simp
    | ok found => simp

def UseBreaks (found : StandardKeys) (w : World) : Prop :=
  match found with
  | .fixed _ => False
  | .environment lease => lease.Breaks w.clock (EnvironmentKeys.delivery w.environment) False
  | .role role view =>
    role.UseBreaks (client view) (UnsignedEscapes Failure.isHandled view none w) w
  | .machine lease => InstanceProfile.UseBreaks lease w
  | .other method lease =>
    lease.Breaks w.clock (renew method w).1 (∃ failure,
      (renew method w).1 = .error failure ∧ failure.IsStray)

theorem use_strays (found : StandardKeys) (w : World) :
    Strays (use found w).1 ↔ UseBreaks found w := by
  cases found with
  | fixed keys => exact iff_of_false (strays_ok _) id
  | environment lease =>
    exact Lease.use_strays EnvironmentKeys.method rfl
      (iff_of_false (EnvironmentKeys.delivery_strays _) id)
  | role role view => exact role.use_strays (client_strays view w)
  | machine lease => exact InstanceProfile.use_strays lease w
  | other method lease => exact Lease.use_strays method (renew_grew method w).1.clock Iff.rfl

end Standard

end CloudCredentials
