import CloudCredentials.Proofs.ErrorContract
import CloudCredentials.Proofs.RefusedClients
import CloudCredentials.Proofs.SelectedSources
import CloudCredentials.Proofs.SettingsFaults
import CloudCredentials.Proofs.UnreadLog
import Mathlib.Logic.Basic

/-!
# What commands do not expect of a selection

A profile file that cannot be parsed and an unknown active profile are failures of the SDK. They are
met when the region is looked up in the active profile and when the client of federation is made, so
both can end the selection of a provider, and only validation expects them. The SDK can refuse the
client too, with a failure that no command need expect. A home directory that is not known ends the
selection as well, and no command expects that.
-/

namespace CloudCredentials

open CommandLine

variable {c : Command}

/-! ### Profiles and regions -/

/-- Such a failure is one of the SDK. -/
theorem expects_ofProfiles {f : Failure} (h : f.IsOfProfiles) :
    c.expects f = true ↔ c = .validate := by
  have family : isExpected f = false ∧ f.isSdk = true := by
    rcases h with ⟨path, rfl⟩ | ⟨name, rfl⟩
    · exact ⟨rfl, rfl⟩
    · exact ⟨rfl, rfl⟩
  rw [Command.expects_eq, family.1, family.2, Bool.false_or, Bool.and_true, decide_eq_true_iff]

theorem foreseen_ofProfiles {α : Type} {f : Failure} (h : f.IsOfProfiles) {P : Prop} (hp : P) :
    Foreseen c (.error f : Except Failure α) ↔ ¬ (c ≠ .validate ∧ P) := by
  rw [foreseen_error, expects_ofProfiles h, and_iff_left hp, Decidable.not_not]

theorem ActiveProfile.region_failure {a : ActiveProfile} {w : World} {failure : Failure} :
    (a.region w).1 = .error failure ↔
      w.valueOf "AWS_DEFAULT_REGION" = none ∧ (a.options w).1 = .error failure := by
  unfold region
  cases w.valueOf "AWS_DEFAULT_REGION" with
  | some region => simp
  | none =>
    rcases a.options w with ⟨failure' | options, b⟩
    · simp
    · simp

/-- The active profile cannot be seen. -/
def ProfilesBreak (w : World) : Prop := ∃ failure, (ActiveProfile.options {} w).1 = .error failure

namespace RegionProvider

/-- The providers that settings can ask for. -/
def IsConfigured : RegionProvider → Prop
  | .fixed _ => True
  | .lookup profile => profile = none
  | .scripted _ => False

theorem isConfigured_ofProperties (p : Option RegionProperties) :
    (ofProperties p).IsConfigured := by
  unfold ofProperties
  split
  · split
    · rfl
    · trivial
  · rfl

/-- The region is looked up in the active profile, for no variable gives it. -/
def Consults (r : RegionProvider) (w : World) : Prop :=
  r = .lookup none ∧ w.environment.nonempty? "AWS_REGION" = none ∧
    w.valueOf "AWS_DEFAULT_REGION" = none

theorem get_withLog (r : RegionProvider) (w : World) (log : List Record) :
    (r.get (w.withLog log)).1 = (r.get w).1 := by
  cases r with
  | fixed region => rfl
  | scripted answer => rfl
  | lookup profile =>
    simp only [get, find, World.environment_withLog, ActiveProfile.region_withLog]
    split
    · rfl
    · rfl
    · split <;> rfl

theorem get_leaves {r : RegionProvider} (hr : r.IsConfigured) (w : World) :
    ∃ log, (r.get w).2 = w.withLog log := by
  cases r with
  | fixed region => exact ⟨w.log, rfl⟩
  | scripted answer => exact hr.elim
  | lookup profile =>
    dsimp only [get]
    split
    · exact ⟨w.log, rfl⟩
    · exact ⟨w.log, rfl⟩
    · split
      · exact ⟨w.log, rfl⟩
      · exact ⟨_, rfl⟩

theorem find_failure {w : World} {failure : Failure} : find none w = .error failure ↔
    w.environment.nonempty? "AWS_REGION" = none ∧ w.valueOf "AWS_DEFAULT_REGION" = none ∧
      (ActiveProfile.options {} w).1 = .error failure := by
  unfold find
  cases w.environment.nonempty? "AWS_REGION" with
  | some region => simp
  | none => exact ActiveProfile.region_failure.trans (and_iff_right rfl).symm

theorem get_foreseen {r : RegionProvider} (hr : r.IsConfigured) (w : World) :
    Foreseen c (r.get w).1 ↔ ¬ (c ≠ .validate ∧ r.Consults w ∧ ProfilesBreak w) := by
  cases r with
  | fixed region =>
    refine iff_of_true (foreseen_ok region) ?_
    rintro ⟨_, ⟨h, _⟩, _⟩
    cases h
  | scripted answer => exact hr.elim
  | lookup profile =>
    cases hr
    dsimp only [get]
    cases hf : find none w with
    | error failure =>
      obtain ⟨hv, hd, ho⟩ := find_failure.mp hf
      exact foreseen_ofProfiles (ActiveProfile.options_failure ho) ⟨⟨rfl, hv, hd⟩, failure, ho⟩
    | ok found =>
      have hnot : ¬ (c ≠ .validate ∧ (lookup none).Consults w ∧ ProfilesBreak w) := by
        rintro ⟨_, ⟨_, hv, hd⟩, failure, ho⟩
        have herror := find_failure.mpr ⟨hv, hd, ho⟩
        rw [hf] at herror
        cases herror
      refine iff_of_true ?_ hnot
      cases found with
      | none => exact foreseen_error.mpr (Command.expects_of_isOwn rfl)
      | some region =>
        dsimp only
        split
        · exact foreseen_error.mpr (Command.expects_of_isOwn rfl)
        · exact foreseen_ok region

end RegionProvider

/-! ### The configured provider -/

theorem unsignedFactory_foreseen (name : String) (w : World) :
    Foreseen c (unsignedFactory name w).1 ↔ ¬ ClientEscapes c.expects (some name) w :=
  freshClient_failsOnly (some name) w fun _ => Command.expects_of_isValue rfl

/-- What was logged before does not matter to a client. -/
theorem clientEscapes_withLog (name : String) (w : World) (log : List Record) :
    ClientEscapes c.expects (some name) (w.withLog log) ↔
      ClientEscapes c.expects (some name) w := by
  have hclient : (unsignedFactory name (w.withLog log)).1 = (unsignedFactory name w).1 :=
    freshClient_withLog w log (some name)
  rw [← not_iff_not, ← unsignedFactory_foreseen, ← unsignedFactory_foreseen, hclient]

/-- The command does not expect how the selection of a provider ends: the selected profile is in a
home directory that is not known; or federation is selected, and the region is to be looked up in
the active profile, which cannot be seen, or the client of federation is refused. That the profile
cannot be seen is a failure of the SDK, which validation expects. -/
def SelectionBreaks (c : Command) (region : RegionProvider) (p : CredentialsProperties)
    (w : World) : Prop :=
  Selection.IsHomeless w.environment.home p ∨
    Selection.IsSelected w.webIdentity p .federation ∧
      (c ≠ .validate ∧ region.Consults w ∧ ProfilesBreak w ∨
        ∃ name, (region.get w).1 = .ok name ∧ ClientEscapes c.expects (some name) w)

/-- The region is looked up after a record, which does not matter to it. -/
theorem RegionProvider.get_federating (region : RegionProvider) (w : World) :
    (region.get (Selection.federating w)).1 = (region.get w).1 :=
  region.get_withLog w (Selection.federating w).log

/-- The client of federation is made after one more record. -/
theorem federated_foreseen {region : RegionProvider} (hr : region.IsConfigured) {w v : World}
    {name : String} (hg : region.get (Selection.federating w) = (.ok name, v)) :
    Foreseen c (unsignedFactory name v).1 ↔ ¬ ClientEscapes c.expects (some name) w := by
  obtain ⟨log, hv⟩ := RegionProvider.get_leaves hr (Selection.federating w)
  rw [hg] at hv
  have hv : v = w.withLog log := hv
  rw [← clientEscapes_withLog name w log, ← hv]
  exact unsignedFactory_foreseen name v

theorem resolve_foreseen {region : RegionProvider} (hr : region.IsConfigured)
    (p : CredentialsProperties) (w : World) :
    Foreseen c (Selection.resolve none region.get unsignedFactory p w).1 ↔
      ¬ SelectionBreaks c region p w := by
  have started := region.get_federating w
  have looked : Foreseen c (region.get (Selection.federating w)).1 ↔
      ¬ (c ≠ .validate ∧ region.Consults w ∧ ProfilesBreak w) := by
    rw [started]
    exact RegionProvider.get_foreseen hr w
  have hres := Selection.resolve_cases none region.get unsignedFactory p w
  generalize Selection.resolve none region.get unsignedFactory p w = result at hres
  unfold SelectionBreaks
  cases hres with
  | homeless hh =>
    exact iff_of_false (not_foreseen rfl) fun h => h (.inl hh)
  | plain hh hf hs ha =>
    refine iff_of_true (foreseen_ok _) ?_
    rintro (h | ⟨h, _⟩)
    · exact hh h
    · exact hf h
  | regionless hh hf hg =>
    rw [hg] at looked started
    refine foreseen_error_congr.trans (looked.trans ?_)
    rw [← started]
    refine not_congr ⟨fun h => .inr ⟨hf, .inl h⟩, ?_⟩
    rintro (h | ⟨_, h | ⟨_, hn, _⟩⟩)
    · exact absurd h hh
    · exact h
    · cases hn
  | clientless hh hf hg hc =>
    have hmade := federated_foreseen (c := c) hr hg
    rw [hc] at hmade
    rw [hg] at looked started
    have hlooked := looked.mp (foreseen_ok _)
    refine foreseen_error_congr.trans (hmade.trans ?_)
    rw [← started]
    refine not_congr ⟨fun h => .inr ⟨hf, .inr ⟨_, rfl, h⟩⟩, ?_⟩
    rintro (h | ⟨_, h | ⟨_, hn, h⟩⟩)
    · exact absurd h hh
    · exact absurd h hlooked
    · cases hn
      exact h
  | federated hh hf hg hc hs ha =>
    have hmade := federated_foreseen (c := c) hr hg
    rw [hc] at hmade
    rw [hg] at looked started
    have hlooked := looked.mp (foreseen_ok _)
    have hmade := hmade.mp (foreseen_ok _)
    rw [← started]
    refine iff_of_true (foreseen_ok _) ?_
    rintro (h | ⟨_, h | ⟨_, hn, h⟩⟩)
    · exact hh h
    · exact hlooked h
    · cases hn
      exact hmade h

/-! ### What is configured -/

/-- The settings break, or they can be loaded and the selection of a provider breaks. -/
def ConfiguredBreaks (c : Command) (config : Option String) (w : World) : Prop :=
  SettingsBreak c config w ∨ After (loadSettings config w) fun settings v =>
    SelectionBreaks c (.ofProperties settings.region) settings.credentials v

theorem configured_foreseen (config : Option String) (w : World) :
    Foreseen c (configured config w).1 ↔ ¬ ConfiguredBreaks c config w := by
  refine foreseen_stage (loadSettings_foreseen config w) ?_ ?_
  · intro failure v h
    unfold configured
    rw [h]
  · intro settings v h
    unfold configured
    rw [h]
    exact foreseen_map.trans (resolve_foreseen (RegionProvider.isConfigured_ofProperties _) _ _)

theorem made_isGenuine {home : Option String} {client : Option Client} {supported : Bool}
    {p : CredentialsProperties} {kinds : List Selection.Kind} {sources : List Source}
    (hs : List.Forall₂ (Selection.Makes home client p) kinds sources)
    (hk : ∀ k ∈ kinds, Selection.IsSelected supported p k) (w : World) :
    ∀ s ∈ sources, s.IsGenuine w := by
  induction hs with
  | nil =>
    intro s h
    cases h
  | @cons k source kinds sources hm hrest ih =>
    intro s h
    rcases List.mem_cons.mp h with rfl | h
    · have hsel := hk k List.mem_cons_self
      cases hm with
      | fixed ha hs =>
        obtain ⟨ha', hs'⟩ :
          Selection.IsVisible p.accessKey ∧ Selection.IsVisible p.secretKey := hsel
        rw [ha] at ha'
        rw [hs] at hs'
        simp [Source.IsGenuine, Keys.isComplete, Datum.isEmpty, ha'.ne_empty, hs'.ne_empty]
      | metadata => trivial
      | profile _ _ _ => trivial
      | federation _ _ => trivial
    · exact ih (fun k h => hk k (List.mem_cons_of_mem _ h)) s h

theorem arranged_isGenuine {sources : List Source} {provider : Provider}
    (ha : Selection.Arranged sources provider) {w : World} (hs : ∀ s ∈ sources, s.IsGenuine w) :
    Provider.Each Source.IsGenuine (provider, w) := by
  intro s h
  rcases ha.mem_leaves h with h | ⟨_, rfl⟩
  · exact hs s h
  · trivial

theorem selected_isGenuine {available : Option Bool} {region : World → Step String}
    {factory : ClientFactory} {p : CredentialsProperties} {w v : World} {provider : Provider}
    (h : Selection.resolve available region factory p w = (.ok provider, v)) :
    Provider.Each Source.IsGenuine (provider, v) := by
  have hres := Selection.resolve_cases available region factory p w
  rw [h] at hres
  have hk : ∀ k ∈ Selection.selected (available.getD w.webIdentity) p,
      Selection.IsSelected (available.getD w.webIdentity) p k := fun k => Selection.mem_selected.mp
  cases hres with
  | plain _ _ hs ha => exact arranged_isGenuine ha (made_isGenuine hs hk _)
  | federated _ _ _ _ hs ha => exact arranged_isGenuine ha (made_isGenuine hs hk v)

theorem configured_ok {config : Option String} {w v : World} {provider : Provider}
    {region : RegionProvider} (h : configured config w = (.ok (provider, region), v)) :
    ∃ settings u, loadSettings config w = (.ok settings, u) ∧
      region = RegionProvider.ofProperties settings.region ∧
      Selection.resolve none region.get unsignedFactory settings.credentials u =
        (.ok provider, v) := by
  unfold configured at h
  rcases hl : loadSettings config w with ⟨failure | settings, u⟩
  · simp only [hl] at h
    cases h
  · simp only [hl] at h
    rcases hs : Selection.resolve none (RegionProvider.ofProperties settings.region).get
      unsignedFactory settings.credentials u with ⟨failure | made, x⟩
    · simp only [hs] at h
      cases h
    · simp only [hs] at h
      cases h
      exact ⟨settings, u, rfl, rfl, hs⟩

theorem configured_isGenuine {config : Option String} {w v : World} {provider : Provider}
    {region : RegionProvider} (h : configured config w = (.ok (provider, region), v)) :
    region.IsConfigured ∧ Provider.Each Source.IsGenuine (provider, v) := by
  obtain ⟨settings, u, _, rfl, hs⟩ := configured_ok h
  exact ⟨RegionProvider.isConfigured_ofProperties _, selected_isGenuine hs⟩

end CloudCredentials
