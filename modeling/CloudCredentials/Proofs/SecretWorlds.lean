import CloudCredentials.Proofs.CommandEnds
import CloudCredentials.Proofs.RefusedSecrets
import CloudCredentials.Proofs.SettingsPrecedence

/-!
# Worlds that differ in the secret key

The sources of the settings in two worlds say the same but for the secret key, and what else a
description looks at is the same: the variables of the SDK, the profile files, the support for web
identity and the records so far. Settings gathered in such worlds differ in the secret key only, and
the selection of a provider for them comes to the same but for what is never shown.
-/

namespace CloudCredentials

/-! ### Answers -/

/-- Both fail, each in its own way, or both have results that are related. -/
inductive Parallel {ε α β : Type} (R : α → β → Prop) : Except ε α → Except ε β → Prop
  | error (e e' : ε) : Parallel R (.error e) (.error e')
  | ok {a : α} {b : β} (h : R a b) : Parallel R (.ok a) (.ok b)

section Parallel

variable {ε α β γ δ : Type} {R : α → β → Prop} {S : γ → δ → Prop} {r : Except ε α}
  {r' : Except ε β}

theorem Both.parallel (h : Both R r r') : Parallel R r r' := by
  cases h with
  | error e => exact .error e e
  | ok h => exact .ok h

theorem Parallel.bind {f : α → Except ε γ} {g : β → Except ε δ} (h : Parallel R r r')
    (hfg : ∀ {a b}, R a b → Parallel S (f a) (g b)) : Parallel S (r.bind f) (r'.bind g) := by
  cases h with
  | error e e' => exact .error e e'
  | ok h => exact hfg h

theorem Parallel.map {f : α → γ} {g : β → δ} (h : Parallel R r r')
    (hfg : ∀ {a b}, R a b → S (f a) (g b)) : Parallel S (r.map f) (r'.map g) := by
  cases h with
  | error e e' => exact .error e e'
  | ok h => exact .ok (hfg h)

end Parallel

/-! ### Twins -/

/-- The environment, the variable file and the config file say the same in both worlds but for the
secret key, and the profile files say the same. Of a file that cannot be read, or holds no text of
its kind, nothing is compared: any two such files count as the same, whatever they hold and however
the failures differ. -/
structure World.Twin (config : Option String) (w w' : World) : Prop where
  environment : Fields (fun n t t' => Variables.Twin (Text.lower n) (some t) (some t'))
    w.environment w'.environment
  variableFile : Parallel (Fields fun n => Variables.Twin (Text.lower n)) (writtenVariables w)
    (writtenVariables w')
  isFile : ∀ name ∈ config, w.files.isFile (Path.ofText name).text =
    w'.files.isFile (Path.ofText name).text
  configFile : ∀ name ∈ config, Parallel Mapping.TwinSections
    (writtenMapping (Path.ofText name) w) (writtenMapping (Path.ofText name) w')
  profileFiles : ∀ file ∈ [ActiveProfile.configFile w, ActiveProfile.credentialsFile w],
    ProfileFile.readSections w file = ProfileFile.readSections w' file
  clients : w.clients = w'.clients
  webIdentity : w.webIdentity = w'.webIdentity
  log : w.log = w'.log

/-- A variable whose name stands for no part of the credentials has the same value. -/
theorem World.Twin.valueOf {config : Option String} {w w' : World} (h : w.Twin config w')
    {name : String} (hs : Text.lower name ≠ secretVariable)
    (hv : Text.lower name ≠ Section.credentials.variableName) :
    w.valueOf name = w'.valueOf name := by
  have hl := Fields.lookup h.environment name
  unfold World.valueOf Environment.get?
  refine eq_of_rel (rel_imp hl fun ht => ?_)
  exact Option.some.inj (ht.eq hs hv)

/-- The settings of all sources differ in the secret key only, if they can be read. -/
theorem gatherSettings_twin {config : Option String} {w w' : World} (h : w.Twin config w') :
    Parallel Mapping.TwinSections (gatherSettings (config.map Path.ofText) w)
      (gatherSettings (config.map Path.ofText) w') := by
  have hassigned : Parallel (Fields Variables.Twin) (fileVariables w) (fileVariables w') := by
    rw [fileVariables_eq, fileVariables_eq]
    exact h.variableFile.map lowerNames_twin
  have hlowest : ∀ name ∈ config, Parallel Mapping.TwinSections
      (configFileSettings (Path.ofText name) w) (configFileSettings (Path.ofText name) w') := by
    intro name hn
    rw [configFileSettings_eq, configFileSettings_eq]
    exact (h.configFile name hn).bind fun hm => (sectionsIn_twin hm).parallel
  have hhighest := settingsOf_twin environmentOrigin (ofEnvironment_twin h.environment)
  -- what lies below the variables is nothing, or the config file
  have merged {r r' : Except Failure Mapping} (hr : Parallel Mapping.TwinSections r r')
      {vars vars' : Variables} (hvars : Fields Variables.Twin vars vars') :
      Parallel Mapping.TwinSections
        (r.bind fun lowest => (settingsOf environmentOrigin
          (Variables.ofEnvironment w.environment)).bind fun highest =>
            (settingsOf variableFileOrigin vars).bind fun middle =>
              .ok (mergeSources highest middle lowest))
        (r'.bind fun lowest => (settingsOf environmentOrigin
          (Variables.ofEnvironment w'.environment)).bind fun highest =>
            (settingsOf variableFileOrigin vars').bind fun middle =>
              .ok (mergeSources highest middle lowest)) := by
    refine hr.bind fun hlowest => (hhighest.bind fun hhighest => ?_).parallel
    refine (settingsOf_twin variableFileOrigin hvars).bind fun hmiddle => .ok ?_
    exact .over Value.Twin.over hlowest (.over Value.Twin.over hmiddle hhighest)
  unfold gatherSettings
  refine hassigned.bind fun hvars => ?_
  cases config with
  | none => exact merged (.ok (.refl _ _ [])) hvars
  | some name => exact merged (hlowest name rfl) hvars

/-! ### What a selection sees -/

/-- The variables that the selection of a provider reads. -/
def seenVariables : List String :=
  ["HOME", "AWS_REGION", "AWS_DEFAULT_REGION", "AWS_PROFILE", "AWS_DEFAULT_PROFILE",
    "AWS_DATA_PATH", Environment.configFileName, Environment.credentialsFileName]

/-- Worlds that the selection of a provider cannot tell apart, with the same records so far. -/
structure World.SameView (w w' : World) : Prop where
  valueOf : ∀ name ∈ seenVariables, w.valueOf name = w'.valueOf name
  setting : ∀ name, ClientSettings.isVariable name = true → w.valueOf name = w'.valueOf name
  profileFiles : ∀ file ∈ [ActiveProfile.configFile w, ActiveProfile.credentialsFile w],
    ProfileFile.readSections w file = ProfileFile.readSections w' file
  clients : w.clients = w'.clients
  webIdentity : w.webIdentity = w'.webIdentity
  log : w.log = w'.log

/-- A variable that is none of this library's own stands for no part of the credentials. -/
theorem lower_ne_of_not_isOwn {name : String} (h : ClientSettings.isOwn name = false) :
    Text.lower name ≠ secretVariable ∧ Text.lower name ≠ Section.credentials.variableName := by
  have hsecret : ClientSettings.ownStart.toList.isPrefixOf secretVariable.toList = true := by
    decide
  have hcredentials : ClientSettings.ownStart.toList.isPrefixOf
      Section.credentials.variableName.toList = true := by decide
  unfold ClientSettings.isOwn at h
  constructor
  · intro hn
    rw [hn, hsecret] at h
    cases h
  · intro hn
    rw [hn, hcredentials] at h
    cases h

theorem World.Twin.sameView {config : Option String} {w w' : World} (h : w.Twin config w') :
    w.SameView w' := by
  have same {name : String} (ho : ClientSettings.isOwn name = false) :
      w.valueOf name = w'.valueOf name :=
    h.valueOf (lower_ne_of_not_isOwn ho).1 (lower_ne_of_not_isOwn ho).2
  have hseen : ∀ name ∈ seenVariables, ClientSettings.isOwn name = false := by decide +kernel
  refine ⟨fun name hn => same (hseen name hn), fun name hn => same ?_, h.profileFiles, h.clients,
    h.webIdentity, h.log⟩
  obtain ⟨_, ho⟩ := Bool.and_eq_true_iff.mp hn
  simpa using ho

theorem readSections_congr {w v : World} {file : String} (he : w.environment = v.environment)
    (hf : w.files = v.files) :
    ProfileFile.readSections w file = ProfileFile.readSections v file := by
  unfold ProfileFile.readSections
  rw [he, hf]

namespace World.SameView

variable {w w' : World}

theorem record (h : w.SameView w') (level : Level) (channel : Channel) (text : String) :
    (w.record level channel text).SameView (w'.record level channel text) := by
  refine ⟨h.valueOf, h.setting, ?_, h.clients, h.webIdentity,
    congrArg (· ++ [Record.mk level channel text]) h.log⟩
  intro file hm
  have kept (v : World) : ProfileFile.readSections (v.record level channel text) file =
      ProfileFile.readSections v file := readSections_congr rfl rfl
  rw [kept, kept]
  exact h.profileFiles file hm

theorem call (h : w.SameView w') (c : Call) : (w.call c).SameView (w'.call c) := by
  refine ⟨h.valueOf, h.setting, ?_, h.clients, h.webIdentity, h.log⟩
  intro file hm
  have kept (v : World) : ProfileFile.readSections (v.call c) file =
      ProfileFile.readSections v file := readSections_congr rfl rfl
  rw [kept, kept]
  exact h.profileFiles file hm

variable (h : w.SameView w')

include h

theorem home : w.environment.home = w'.environment.home := h.valueOf "HOME" (by decide)

theorem profiles (a : ActiveProfile) : a.profiles w = a.profiles w' := by
  have hconfig : ActiveProfile.configFile w = ActiveProfile.configFile w' := by
    unfold ActiveProfile.configFile
    rw [h.valueOf _ (by decide)]
  have hcredentials : ActiveProfile.credentialsFile w = ActiveProfile.credentialsFile w' := by
    unfold ActiveProfile.credentialsFile
    rw [h.valueOf _ (by decide)]
  unfold ActiveProfile.profiles
  rw [h.profileFiles _ List.mem_cons_self, h.profileFiles _ (.tail _ List.mem_cons_self), hconfig,
    hcredentials]

theorem options (a : ActiveProfile) : a.options w = a.options w' := by
  have hactive (b : ActiveProfile) : b.active? w = b.active? w' := by
    unfold ActiveProfile.active?
    rw [h.valueOf "AWS_DEFAULT_PROFILE" (by decide), h.valueOf "AWS_PROFILE" (by decide)]
  unfold ActiveProfile.options
  simp only [h.profiles, hactive]

theorem region (a : ActiveProfile) : a.region w = a.region w' := by
  unfold ActiveProfile.region
  rw [h.valueOf "AWS_DEFAULT_REGION" (by decide), h.options]

theorem settings (options : ProfileFile.Section) : ClientSettings.ofProfile options w.environment =
    ClientSettings.ofProfile options w'.environment := by
  have hvariables (name : String) :
      (if ClientSettings.isVariable name then w.environment.get? name else none) =
        if ClientSettings.isVariable name then w'.environment.get? name else none := by
    split
    · next hn => exact h.setting name hn
    · rfl
  simp only [ClientSettings.ofProfile, hvariables]

theorem unsignedFactory (name : String) :
    (unsignedFactory name w).1 = (unsignedFactory name w').1 := by
  have hplace := h.valueOf "AWS_DATA_PATH" (by decide)
  simp only [CloudCredentials.unsignedFactory, freshClient, ActiveProfile.opened, unsignedClient,
    clientPlan, checkedRegion, ClientPlan.endpoint, hplace, h.options, h.settings, h.clients]

theorem regionOf (r : RegionProvider) :
    (r.get w).1 = (r.get w').1 ∧ (r.get w).2.SameView (r.get w').2 := by
  cases r with
  | fixed region => exact ⟨rfl, h⟩
  | scripted answer => exact ⟨rfl, h.call _⟩
  | lookup profile =>
    have hfind : RegionProvider.find profile w = RegionProvider.find profile w' := by
      have hvalue : w.environment.get? "AWS_REGION" = w'.environment.get? "AWS_REGION" :=
        h.valueOf "AWS_REGION" (by decide)
      unfold RegionProvider.find Environment.nonempty?
      rw [hvalue, h.region]
    unfold RegionProvider.get
    dsimp only
    rw [hfind]
    split
    · exact ⟨rfl, h⟩
    · exact ⟨rfl, h⟩
    · split
      · exact ⟨rfl, h⟩
      · exact ⟨rfl, h.record ..⟩

end World.SameView

/-! ### Selecting for twins -/

/-- Sources that are shown alike. -/
def Source.SameShown (s s' : Source) : Prop := s.shown = s'.shown

theorem Source.SameShown.refl (s : Source) : s.SameShown s := rfl

namespace Selection

theorem describe_providerOf {sources sources' : List Source}
    (h : List.Forall₂ Source.SameShown sources sources') :
    (providerOf sources).describe = (providerOf sources').describe := by
  have members (depth : Nat) {sources sources' : List Source}
      (h : List.Forall₂ Source.SameShown sources sources') :
      Tree.linesAll Source.behaviour depth (sources.map .leaf) =
        Tree.linesAll Source.behaviour depth (sources'.map .leaf) := by
    induction h with
    | nil => rfl
    | @cons s s' rest rest' hs _ ih =>
      have hline : Tree.lines Source.behaviour depth (.leaf s) =
          Tree.lines Source.behaviour depth (.leaf s') :=
        congrArg (fun shown => [Tree.indentation depth ++ shown]) hs
      rw [List.map_cons, List.map_cons, Tree.linesAll, Tree.linesAll, hline, ih]
  cases h with
  | nil => rfl
  | @cons s s' rest rest' hs hrest =>
    cases hrest with
    | nil => exact congrArg (fun shown => [Tree.indentation 0 ++ shown]) hs
    | cons ht hrest =>
      have hall := members 1 (.cons hs (.cons ht hrest))
      exact congrArg (_ :: ·) hall

section Twins

variable {p p' : CredentialsProperties} (hp : p.Twin p') {w w' : World} (h : w.SameView w')

include hp

/-- The fixed keys are shown by the access key. -/
theorem fixedSources_twin :
    Both (List.Forall₂ Source.SameShown) (fixedSources p) (fixedSources p') := by
  have hwants : wantsFixed p = wantsFixed p' := by
    unfold wantsFixed
    rw [hp.accessKey, hp.secretKey]
  have given {s : Option String} (hs : Text.hasText s = true) :
      (Datum.ofOption s).isEmpty = false := by
    cases s with
    | none => cases hs
    | some t => exact decide_eq_false (Text.ne_empty_of_hasText hs)
  have complete {q : CredentialsProperties} (hq : wantsFixed q = true) :
      Source.ofKeys ⟨.ofOption q.accessKey, .ofOption q.secretKey, .absent⟩ =
        .ok (.fixed ⟨.ofOption q.accessKey, .ofOption q.secretKey, .absent⟩) := by
    obtain ⟨ha, hs⟩ := Bool.and_eq_true_iff.mp hq
    unfold Source.ofKeys Keys.isComplete
    rw [given ha, given hs]
    rfl
  unfold fixedSources
  cases hw : wantsFixed p with
  | false =>
    rw [hwants] at hw
    rw [hw]
    exact .ok .nil
  | true =>
    rw [complete hw]
    rw [hwants] at hw
    rw [hw, complete hw, hp.accessKey]
    exact .ok (.cons rfl .nil)

theorem profileSources_twin (hhome : w.environment.home = w'.environment.home) :
    profileSources p w = profileSources p' w' := by
  unfold profileSources wantedProfile?
  rw [hp.profile, hhome]

end Twins

section Views

variable {w w' : World} (h : w.SameView w') (region : RegionProvider)

include h

theorem federationSource_sameView (sts : StsProperties) :
    (federationSource region.get unsignedFactory sts w).1 =
        (federationSource region.get unsignedFactory sts w').1 ∧
      (federationSource region.get unsignedFactory sts w).2.SameView
        (federationSource region.get unsignedFactory sts w').2 := by
  have hcreating := h.record .debug .resolver "Creating StsWebIdentityCredentialsProvider"
  obtain ⟨hr, hv⟩ := hcreating.regionOf region
  unfold federationSource
  dsimp only
  generalize region.get (w.record .debug .resolver _) = r at hr hv
  generalize region.get (w'.record .debug .resolver _) = r' at hr hv
  obtain ⟨found, v⟩ := r
  obtain ⟨found', v'⟩ := r'
  dsimp only at hr hv
  subst hr
  cases found with
  | error failure => exact ⟨rfl, hv⟩
  | ok name =>
    have hc := hv.unsignedFactory name
    have keeps (u : World) : (unsignedFactory name u).2 = u := rfl
    rcases hf : unsignedFactory name v with ⟨client, u⟩
    rcases hf' : unsignedFactory name v' with ⟨client', u'⟩
    have hu := keeps v
    have hu' := keeps v'
    rw [hf] at hc hu
    rw [hf'] at hc hu'
    dsimp only at hc hu hu'
    subst hc hu hu'
    dsimp only
    rw [hf, hf']
    cases client with
    | error failure => exact ⟨rfl, hv⟩
    | ok client => exact ⟨rfl, hv⟩

theorem federationSources_twin {p p' : CredentialsProperties} (hp : p.Twin p') :
    (federationSources none region.get unsignedFactory p w).1 =
        (federationSources none region.get unsignedFactory p' w').1 ∧
      (federationSources none region.get unsignedFactory p w).2.SameView
        (federationSources none region.get unsignedFactory p' w').2 := by
  unfold federationSources support
  rw [hp.sts, Option.getD_none, Option.getD_none, h.webIdentity]
  cases p'.sts with
  | none => exact ⟨rfl, h⟩
  | some sts =>
    dsimp only
    cases w'.webIdentity with
    | false => exact ⟨rfl, h.record ..⟩
    | true =>
      cases sts.enabled with
      | false => exact ⟨rfl, h⟩
      | true =>
        obtain ⟨hs, hv⟩ := federationSource_sameView h region sts
        exact ⟨congrArg (Except.map ([·])) hs, hv⟩

/-- The providers selected for twins are described alike. -/
theorem resolve_twin {p p' : CredentialsProperties} (hp : p.Twin p') :
    Both (fun provider provider' => provider.describe = provider'.describe)
        (resolve none region.get unsignedFactory p w).1
        (resolve none region.get unsignedFactory p' w').1 ∧
      (resolve none region.get unsignedFactory p w).2.SameView
        (resolve none region.get unsignedFactory p' w').2 := by
  have hfixed := fixedSources_twin hp
  have hprofile := profileSources_twin hp h.home
  have hinstance : instanceSources p = instanceSources p' := by
    unfold instanceSources
    rw [hp.instanceProfile]
  obtain ⟨hfederation, hv⟩ := federationSources_twin h region hp
  have same (sources : List Source) : List.Forall₂ Source.SameShown sources sources :=
    List.forall₂_same.mpr fun s _ => .refl s
  unfold resolve sources
  rw [hprofile, hinstance]
  generalize fixedSources p = fixed at hfixed
  generalize fixedSources p' = fixed' at hfixed
  cases hfixed with
  | error failure => exact ⟨.error _, h⟩
  | ok hfixed =>
    dsimp only
    cases profileSources p' w' with
    | error failure => exact ⟨.error _, h⟩
    | ok profile =>
      dsimp only
      generalize federationSources none region.get unsignedFactory p w = r at hfederation hv
      generalize federationSources none region.get unsignedFactory p' w' = r' at hfederation hv
      obtain ⟨found, v⟩ := r
      obtain ⟨found', v'⟩ := r'
      dsimp only at hfederation
      subst hfederation
      cases found with
      | error failure => exact ⟨.error _, hv⟩
      | ok federation =>
        refine ⟨.ok (describe_providerOf ?_), hv⟩
        exact List.rel_append (List.rel_append (List.rel_append hfixed (same _)) (same _)) (same _)

end Views

end Selection

end CloudCredentials
