import CloudCredentials.Proofs.AmbientSources
import CloudCredentials.Proofs.SelectedSources
import CloudCredentials.Proofs.UnreadLog

/-!
# The SDK's own keys do not reach configured providers

Two worlds that differ in ambient variables only make the same provider of the same settings, which
then runs in the same way in both. There is one exception: the client for federation is made by the
SDK with the settings of the active profile, which has to exist, and one of the variables names it.
-/

namespace CloudCredentials

/-! ### Runs of providers -/

/-- Two events that leave worlds that differ in ambient variables only as such worlds: the same
event, or two such environments. -/
inductive Event.Ambient : Event → Event → Prop
  | environment {env env' : Environment} (h : env.AgreesOutside env') (hp : env.IsPlain) :
    Ambient (.environment env) (.environment env')
  | other {e : Event} (he : ∀ env, e ≠ .environment env) : Ambient e e

theorem Event.Ambient.around {e e' : Event} (he : e.Ambient e') {w w' : World}
    (h : w.Ambient w') : (e.around w).Ambient (e'.around w') := by
  cases h with
  | intro h hp =>
    cases he with
    | environment he hplain => exact .intro he hplain
    | @other e hne =>
      cases e with
      | environment env => exact (hne env rfl).elim
      | advance _ | files _ | scripts _ _ | sdk _ _ _ | support _ => exact .intro h hp
      | resolve | tick _ | close => exact .intro h hp

theorem Source.behaviour_same : Source.behaviour.Keeps Eq Source.Same World.Ambient where
  name hs := by rw [hs.1]
  shown hs := by rw [hs.1]
  record level channel text h := h.record level channel text
  ask hs h := Source.ask_same hs h

namespace Provider

/-- One provider in two worlds, made of configured sources. -/
abbrev Same (p p' : Provider) : Prop := Tree.Alike Source.Same p p'

theorem step_ambient {e e' : Event} (he : e.Ambient e') {p p' : Provider} (hp : p.Same p')
    {w w' : World} (h : w.Ambient w') :
    (step e (p, w)).1.Same (step e' (p', w')).1 ∧
      (step e (p, w)).2.Ambient (step e' (p', w')).2 := by
  have haround := he.around h
  cases he with
  | environment _ _ => exact ⟨hp, haround⟩
  | @other e _ =>
    cases e with
    | resolve =>
      obtain ⟨_, hp, h⟩ := Tree.ask_alike Source.behaviour_same hp h
      exact ⟨hp, h⟩
    | tick place => exact Tree.actAt_alike Source.tick_same place hp h
    | close => exact Tree.mapLeaves_alike Source.close_same hp h
    | environment _ | advance _ | files _ | scripts _ _ | sdk _ _ _ | support _ =>
      exact ⟨hp, haround⟩

theorem answers_cons {e e' : Event} (he : e.Ambient e') (events : List Event) {p p' : Provider}
    (hp : p.Same p') {w w' : World} (h : w.Ambient w') {events' : List Event}
    (hrest : answers events' (step e' (p', w')) = answers events (step e (p, w))) :
    answers (e' :: events') (p', w') = answers (e :: events) (p, w) := by
  cases he with
  | environment _ _ => exact hrest
  | @other e _ =>
    cases e with
    | resolve =>
      have ha := (Tree.ask_alike Source.behaviour_same hp h).answer.eq
      exact congrArg₂ List.cons ha.symm hrest
    | tick _ | close | environment _ | advance _ | files _ | scripts _ _ | sdk _ _ _ => exact hrest
    | support _ => exact hrest

theorem run_ambient {events events' : List Event} (he : List.Forall₂ Event.Ambient events events')
    {p p' : Provider} (hp : p.Same p') {w w' : World} (h : w.Ambient w') :
    answers events' (p', w') = answers events (p, w) ∧
      (run events (p, w)).1.Same (run events' (p', w')).1 ∧
      (run events (p, w)).2.Ambient (run events' (p', w')).2 := by
  induction he generalizing p p' w w' with
  | nil => exact ⟨rfl, hp, h⟩
  | @cons e e' rest rest' he hrest ih =>
    obtain ⟨hp', h'⟩ := step_ambient he hp h
    obtain ⟨hanswers, hrun⟩ := ih hp' h'
    exact ⟨answers_cons he rest hp h hanswers, hrun⟩

end Provider

/-! ### The active profile -/

/-- The settings that the active profile makes for a client; none when it cannot be seen. -/
def World.activeSettings? (w : World) : Option ClientSettings :=
  match (ActiveProfile.options {} w).1 with
  | .error _ => none
  | .ok options => some (.ofProfile options w.environment)

namespace ActiveProfile

theorem configFile_plain {w : World} (hp : w.environment.IsPlain) :
    '$' ∉ (configFile w).toList := by
  unfold configFile
  cases ht : w.valueOf Environment.configFileName with
  | none => decide
  | some text => exact hp _ (by decide) text ht

theorem credentialsFile_plain {w : World} (hp : w.environment.IsPlain) :
    '$' ∉ (credentialsFile w).toList := by
  unfold credentialsFile
  cases ht : w.valueOf Environment.credentialsFileName with
  | none => decide
  | some text => exact hp _ (by decide) text ht

theorem profiles_ambient (a : ActiveProfile) {w : World} {environment : Environment}
    (h : w.environment.AgreesOutside environment) (hp : w.environment.IsPlain) :
    a.profiles (w.withEnvironment environment) = a.profiles w := by
  have hconfig : configFile (w.withEnvironment environment) = configFile w :=
    congrArg (Option.getD · _) (h.place (by decide))
  have hcredentials : credentialsFile (w.withEnvironment environment) = credentialsFile w :=
    congrArg (Option.getD · _) (h.place (by decide))
  unfold profiles
  rw [hconfig, hcredentials, ProfileFile.readSections_ambient h (configFile_plain hp),
    ProfileFile.readSections_ambient h (credentialsFile_plain hp)]

/-- What was seen of the profiles is not looked up again. -/
theorem options_again {a b : ActiveProfile} {w : World} {found : ProfileFile.Section}
    (h : a.options w = (.ok found, b)) : b.options w = (.ok found, b) := by
  have hprofiles {all : ProfileFile.Sections} {v : ActiveProfile}
      (hp : a.profiles w = (.ok all, v)) : v.profiles w = (.ok all, v) := by
    unfold profiles at hp
    split at hp
    · next hk =>
      cases hp
      simp only [profiles, hk]
    · split at hp
      · cases hp
      · dsimp only at hp
        split at hp
        · cases hp
        · cases hp
          rfl
  unfold options at h
  rcases hp : a.profiles w with ⟨failure | all, v⟩
  · rw [hp] at h
    cases h
  · have hv : v = b := by
      rw [hp] at h
      dsimp only at h
      split at h
      · exact congrArg Prod.snd h
      · split at h
        · exact congrArg Prod.snd h
        · cases h
    subst hv
    rw [hp] at h
    unfold options
    rw [hprofiles hp]
    exact h

end ActiveProfile

theorem ClientSettings.ofProfile_ambient {env env' : Environment} (h : env.AgreesOutside env')
    (options : ProfileFile.Section) : ofProfile options env' = ofProfile options env := by
  have hseen (name : String) : (if isVariable name then env'.get? name else none) =
      if isVariable name then env.get? name else none := by
    split
    · next hv =>
      refine h name fun hn => ?_
      have hambient : ∀ name ∈ Environment.ambient, isVariable name = false := by decide
      rw [hambient name hn] at hv
      cases hv
    · rfl
  simp only [ofProfile, hseen]

/-- The same active profile makes the same settings. -/
theorem World.activeSettings?_ambient {w w' : World} (h : w.Ambient w')
    (hname : w'.valueOf "AWS_PROFILE" = w.valueOf "AWS_PROFILE") :
    w'.activeSettings? = w.activeSettings? := by
  cases h with
  | @intro environment h hp =>
    have hdefault : environment.get? "AWS_DEFAULT_PROFILE" =
        w.environment.get? "AWS_DEFAULT_PROFILE" := h _ (by decide)
    have hactive (a : ActiveProfile) : a.active? (w.withEnvironment environment) = a.active? w := by
      unfold ActiveProfile.active?
      rw [hname]
      unfold valueOf withEnvironment
      rw [hdefault]
    have hoptions : ActiveProfile.options {} (w.withEnvironment environment) =
        ActiveProfile.options {} w := by
      unfold ActiveProfile.options
      rw [ActiveProfile.profiles_ambient {} h hp]
      simp only [hactive]
    unfold activeSettings?
    rw [hoptions]
    cases (ActiveProfile.options {} w).1 with
    | error failure => rfl
    | ok options => exact congrArg some (ClientSettings.ofProfile_ambient h options)

theorem unsignedClient_ok_iff {a b : ActiveProfile} {options : ProfileFile.Section}
    {region : String} {w : World} {client : Client} (ho : a.options w = (.ok options, b)) :
    (unsignedClient a (some region) w).1 = .ok client ↔
      isRegionName region = true ∧ w.clients.before (.ofProfile options w.environment) = none ∧
        w.clients.endpoint (.ofProfile options w.environment) (some region) = .ok client.region ∧
        client.signing = .unsigned := by
  obtain ⟨name, signing⟩ := client
  unfold unsignedClient clientPlan checkedRegion
  dsimp only
  cases hn : isRegionName region with
  | false => simp [namedRegion_of_not_name hn]
  | true =>
    simp only [namedRegion_of_name hn, ho]
    cases hb : w.clients.before (.ofProfile options w.environment) with
    | some failure => simp
    | none =>
      simp only [ClientPlan.endpoint]
      cases w.clients.endpoint (.ofProfile options w.environment) (some region) with
      | error failure => simp [Except.map]
      | ok found => simp [Except.map, eq_comm]

/-- Without a view of the active profile no client is made. -/
theorem freshClient_unseen {failure : Failure} {a : ActiveProfile} {region : String} {w : World}
    {client : Client} (ho : ActiveProfile.options {} w = (.error failure, a)) :
    freshClient (some region) w ≠ .ok client := by
  cases hv : w.valueOf "AWS_DATA_PATH" with
  | none => simp [freshClient, ActiveProfile.opened, hv, ho]
  | some place =>
    simp only [freshClient, ActiveProfile.opened, hv, unsignedClient, clientPlan, checkedRegion]
    cases hn : isRegionName region with
    | false => simp [namedRegion_of_not_name hn]
    | true => simp [namedRegion_of_name hn, ho]

theorem freshClient_ok_iff {region : String} {w : World} {client : Client} :
    freshClient (some region) w = .ok client ↔ ∃ settings, w.activeSettings? = some settings ∧
      (w.valueOf "AWS_DATA_PATH" = none → w.clients.opening settings = none) ∧
      isRegionName region = true ∧ w.clients.before settings = none ∧
      w.clients.endpoint settings (some region) = .ok client.region ∧
      client.signing = .unsigned := by
  unfold World.activeSettings?
  rcases ho : ActiveProfile.options {} w with ⟨failure | options, a⟩
  · refine iff_of_false (freshClient_unseen ho) ?_
    rintro ⟨_, h, _⟩
    cases h
  · simp only [Option.some.injEq, exists_eq_left']
    cases hv : w.valueOf "AWS_DATA_PATH" with
    | some place =>
      have hf : freshClient (some region) w = (unsignedClient {} (some region) w).1 := by
        simp only [freshClient, ActiveProfile.opened, hv]
      rw [hf, unsignedClient_ok_iff ho]
      simp
    | none =>
      cases hr : w.clients.opening (.ofProfile options w.environment) with
      | some failure => simp [freshClient, ActiveProfile.opened, hv, ho, hr]
      | none =>
        have hf : freshClient (some region) w = (unsignedClient a (some region) w).1 := by
          simp only [freshClient, ActiveProfile.opened, hv, ho, hr]
        rw [hf, unsignedClient_ok_iff (ActiveProfile.options_again ho)]
        simp

/-- Of the variables that are ambient, a client sees only what the active profile says. -/
theorem freshClient_ambient {w w' : World} (h : w.Ambient w')
    (hs : w'.activeSettings? = w.activeSettings?) {region : String} {client : Client} :
    freshClient (some region) w' = .ok client ↔ freshClient (some region) w = .ok client := by
  cases h with
  | @intro environment h hp =>
    have hplace : (w.withEnvironment environment).valueOf "AWS_DATA_PATH" =
        w.valueOf "AWS_DATA_PATH" := h _ (by decide)
    rw [freshClient_ok_iff, freshClient_ok_iff, hs, hplace]
    rfl

namespace Selection

variable {available : Option Bool} {region : String} {p : CredentialsProperties} {w w' v : World}
  {q : Provider}

/-- What the package makes of settings with a fixed region. -/
abbrev makeIn (available : Option Bool) (region : String) (p : CredentialsProperties) :
    World → Step Provider :=
  resolve available (RegionProvider.get (.fixed region)) unsignedFactory p

/-- A provider is made unless the selected profile is in a home directory that is not known, or
there is no client for federation. -/
theorem made_iff : (∃ q, (makeIn available region p w).1 = .ok q) ↔
    ¬ IsHomeless w.environment.home p ∧
      (IsSelected (available.getD w.webIdentity) p .federation →
        ∃ client, freshClient (some region) w = .ok client) := by
  have hclient {name : String} {answer : Except Failure Client} {u v : World}
      (hr : RegionProvider.get (.fixed region) (federating w) = (.ok name, u))
      (hc : unsignedFactory name u = (answer, v)) : freshClient (some region) w = answer := by
    cases hr
    have hmade : freshClient (some region) (federating w) = answer := congrArg Prod.fst hc
    rwa [show freshClient (some region) (federating w) = _ from freshClient_withLog w _ _] at hmade
  have hres := resolve_cases available (RegionProvider.get (.fixed region)) unsignedFactory p w
  unfold makeIn
  generalize resolve available (RegionProvider.get (.fixed region)) unsignedFactory p w = result
    at hres
  cases hres with
  | homeless hh => exact iff_of_false (fun ⟨_, h⟩ => nomatch h) fun h => h.1 hh
  | plain hh hf _ _ => exact iff_of_true ⟨_, rfl⟩ ⟨hh, fun h => absurd h hf⟩
  | regionless _ _ hr => cases hr
  | clientless _ hf hr hc =>
    refine iff_of_false (fun ⟨_, h⟩ => nomatch h) fun h => ?_
    obtain ⟨client, hmade⟩ := h.2 hf
    rw [hclient hr hc] at hmade
    cases hmade
  | federated hh _ hr hc _ _ => exact iff_of_true ⟨_, rfl⟩ ⟨hh, fun _ => ⟨_, hclient hr hc⟩⟩

theorem factory_withEnvironment {environment : Environment}
    (hc : freshClient (some region) (w.withEnvironment environment) = freshClient (some region) w)
    (level : Level) (channel : Channel) (text : String) :
    unsignedFactory region ((w.withEnvironment environment).record level channel text) =
      ((unsignedFactory region (w.record level channel text)).1,
        (unsignedFactory region (w.record level channel text)).2.withEnvironment environment) := by
  have hlog (u : World) : freshClient (some region) (u.record level channel text) =
      freshClient (some region) u := freshClient_withLog u _ _
  unfold unsignedFactory
  rw [hlog, hlog, hc]
  rfl

theorem federationSource_withEnvironment {environment : Environment} (sts : StsProperties)
    (hc : freshClient (some region) (w.withEnvironment environment) =
      freshClient (some region) w) :
    federationSource (RegionProvider.get (.fixed region)) unsignedFactory sts
        (w.withEnvironment environment) =
      ((federationSource (RegionProvider.get (.fixed region)) unsignedFactory sts w).1,
        (federationSource (RegionProvider.get (.fixed region)) unsignedFactory sts
          w).2.withEnvironment environment) := by
  unfold federationSource
  dsimp only [RegionProvider.get]
  rw [factory_withEnvironment hc]
  rcases unsignedFactory region (w.record _ _ _) with ⟨failure | client, v⟩
  · rfl
  · rfl

theorem afterSupport_withEnvironment (supported : Bool) (p : CredentialsProperties) (w : World)
    (environment : Environment) : afterSupport supported p (w.withEnvironment environment) =
      (afterSupport supported p w).withEnvironment environment := by
  unfold afterSupport
  split <;> rfl

/-- Settings make the same provider in both worlds when the client for federation is the same. -/
theorem resolve_withEnvironment {environment : Environment}
    (h : w.environment.AgreesOutside environment)
    (hc : IsSelected (available.getD w.webIdentity) p .federation →
      freshClient (some region) (w.withEnvironment environment) = freshClient (some region) w) :
    makeIn available region p (w.withEnvironment environment) =
      ((makeIn available region p w).1,
        (makeIn available region p w).2.withEnvironment environment) := by
  have hprofile : profileSources p (w.withEnvironment environment) = profileSources p w := by
    unfold profileSources
    rw [show (w.withEnvironment environment).environment.home = w.environment.home from h.home]
  have hfederation : federationSources available (RegionProvider.get (.fixed region))
      unsignedFactory p (w.withEnvironment environment) =
      ((federationSources available (RegionProvider.get (.fixed region)) unsignedFactory p w).1,
        (federationSources available (RegionProvider.get (.fixed region)) unsignedFactory p
          w).2.withEnvironment environment) := by
    by_cases hf : IsSelected (available.getD w.webIdentity) p .federation
    · obtain ⟨sts, hs, _⟩ := id hf
      rw [federationSources_of_selected hs hf,
        federationSources_of_selected (w := w.withEnvironment environment) hs hf,
        federationSource_withEnvironment sts (hc hf)]
    · rw [federationSources_of_not hf,
        federationSources_of_not (w := w.withEnvironment environment) hf]
      exact congrArg (Prod.mk _) (afterSupport_withEnvironment _ p w environment)
  unfold makeIn resolve sources
  cases fixedSources p with
  | error failure => rfl
  | ok fixed =>
    dsimp only
    rw [hprofile]
    cases profileSources p w with
    | error failure => rfl
    | ok profile =>
      dsimp only
      rw [hfederation]
      rcases federationSources available (RegionProvider.get (.fixed region)) unsignedFactory p w
        with ⟨failure | found, v⟩
      · rfl
      · rfl

theorem Makes.isConfigured {home : Option String} {client : Option Client} {k : Kind} {s : Source}
    (hm : Makes home client p k s)
    (hpath : ∀ given ∈ p.profile, ∀ path ∈ given.path, path.IsPlain)
    (hhome : ∀ text, home = some text → '$' ∉ text.toList) : s.IsConfigured := by
  cases hm with
  | @profile given name path hg _ he =>
    have hgiven := hpath given hg
    generalize given.path = written at he hgiven
    cases he with
    | none =>
      intro expanded hexpanded
      cases hexpanded
    | some he =>
      intro expanded hexpanded
      cases hexpanded
      exact (hgiven _ rfl).expandHome hhome he
  | fixed _ _ | metadata | federation _ _ => trivial

theorem made_isConfigured {home : Option String} {client : Option Client} {kinds : List Kind}
    {sources : List Source} (hs : List.Forall₂ (Makes home client p) kinds sources)
    (hpath : ∀ given ∈ p.profile, ∀ path ∈ given.path, path.IsPlain)
    (hhome : ∀ text, home = some text → '$' ∉ text.toList) : ∀ s ∈ sources, s.IsConfigured := by
  induction hs with
  | nil =>
    intro s hmem
    cases hmem
  | cons hm _ ih =>
    intro s hmem
    rcases List.mem_cons.mp hmem with rfl | hmem
    · exact hm.isConfigured hpath hhome
    · exact ih s hmem

theorem isConfigured_of_resolve (h : makeIn available region p w = (.ok q, v))
    (hsel : selected (available.getD w.webIdentity) p ≠ [])
    (hpath : ∀ given ∈ p.profile, ∀ path ∈ given.path, path.IsPlain)
    (hp : w.environment.IsPlain) : ∀ s ∈ Tree.leaves q, s.IsConfigured := by
  have arranged {client : Option Client} {sources : List Source}
      (hs : List.Forall₂ (Makes w.environment.home client p)
        (selected (available.getD w.webIdentity) p) sources) (ha : Arranged sources q) :
      ∀ s ∈ Tree.leaves q, s.IsConfigured := by
    intro s hmem
    rcases ha.mem_leaves hmem with hmem | ⟨rfl, _⟩
    · exact made_isConfigured hs hpath hp.home s hmem
    · exact (hsel (List.forall₂_nil_right_iff.mp hs)).elim
  have hres := resolve_cases available (RegionProvider.get (.fixed region)) unsignedFactory p w
  rw [show resolve available (RegionProvider.get (.fixed region)) unsignedFactory p w = _ from h]
    at hres
  cases hres with
  | plain _ _ hs ha => exact arranged hs ha
  | federated _ _ _ _ hs ha => exact arranged hs ha

/-- A provider that is made in one world is made in the other, if its client is the same. -/
theorem resolve_of_client (h : w.Ambient w') (hq : makeIn available region p w = (.ok q, v))
    (hc : IsSelected (available.getD w.webIdentity) p .federation →
      freshClient (some region) w' = freshClient (some region) w) :
    ∃ v', makeIn available region p w' = (.ok q, v') ∧ v.Ambient v' := by
  have hlater : v.environment = w.environment := by
    have hres := resolve_cases available (RegionProvider.get (.fixed region)) unsignedFactory p w
    rw [show resolve available (RegionProvider.get (.fixed region)) unsignedFactory p w = _ from hq]
      at hres
    cases hres with
    | plain _ _ _ _ =>
      unfold afterSupport
      split <;> rfl
    | federated _ _ hr hmade _ _ =>
      cases hr
      exact (congrArg (·.2.environment) hmade).symm
  cases h with
  | @intro environment h hp =>
    have hmade := resolve_withEnvironment h hc
    rw [hq] at hmade
    exact ⟨_, hmade, .intro (by rw [hlater]; exact h) (by rw [hlater]; exact hp)⟩

/-- What the SDK is given in the environment for itself does not reach a provider that settings ask
for. In two worlds that differ in ambient variables only, and in which no path refers to a
variable, settings that select a source make a provider in both or in neither, unless federation
is selected and its client can be made in one of them alone. If they make one in both, and no
client or the same one, then it is the same provider with the same calls and records, and in all
runs from there on each resolve ends in the same way, with the same calls and records in the end.
A client differs only where the settings that the active profile makes differ: the profile cannot
be seen in one of the worlds, or says something else besides keys. They do not differ when the
same profile is active. -/
theorem resolve_ambient (available : Option Bool) (region : String) {p : CredentialsProperties}
    {w w' : World} (h : w.Ambient w')
    (hsel : selected (available.getD w.webIdentity) p ≠ [])
    (hpath : ∀ given ∈ p.profile, ∀ path ∈ given.path, path.IsPlain) :
    ((IsSelected (available.getD w.webIdentity) p .federation →
        ((∃ client, freshClient (some region) w = .ok client) ↔
          ∃ client, freshClient (some region) w' = .ok client)) →
      ((∃ q, (makeIn available region p w).1 = .ok q) ↔
        ∃ q, (makeIn available region p w').1 = .ok q)) ∧
    (∀ q q' v v', makeIn available region p w = (.ok q, v) →
      makeIn available region p w' = (.ok q', v') →
      (IsSelected (available.getD w.webIdentity) p .federation →
        freshClient (some region) w' = freshClient (some region) w) →
      q' = q ∧ v'.calls = v.calls ∧ v'.log = v.log ∧
        ∀ events events', List.Forall₂ Event.Ambient events events' →
          Provider.answers events' (q', v') = Provider.answers events (q, v) ∧
          (Provider.run events' (q', v')).2.calls = (Provider.run events (q, v)).2.calls ∧
          (Provider.run events' (q', v')).2.log = (Provider.run events (q, v)).2.log) ∧
    (w'.activeSettings? = w.activeSettings? → ∀ client,
      freshClient (some region) w' = .ok client ↔ freshClient (some region) w = .ok client) ∧
    (w'.valueOf "AWS_PROFILE" = w.valueOf "AWS_PROFILE" →
      w'.activeSettings? = w.activeSettings?) := by
  refine ⟨fun hclients => ?_, fun q q' v v' hq hq' hclient => ?_,
    fun hs _ => freshClient_ambient h hs, World.activeSettings?_ambient h⟩
  · have hsupport : w'.webIdentity = w.webIdentity := h.rest.1
    have hhome : w'.environment.home = w.environment.home := by
      cases h with
      | intro h _ => exact h.home
    rw [made_iff, made_iff, hsupport, hhome]
    exact and_congr_right fun _ => forall_congr' hclients
  · obtain ⟨u, hu, hv⟩ := resolve_of_client h hq hclient
    rw [hq'] at hu
    cases hu
    refine ⟨rfl, hv.rest.2.1, hv.rest.2.2, ?_⟩
    intro events events' he
    have hplain : w.environment.IsPlain := by
      cases h with
      | intro _ hp => exact hp
    have hconfigured := isConfigured_of_resolve hq hsel hpath hplain
    obtain ⟨hanswers, _, hrun⟩ := Provider.run_ambient he
      (Tree.Alike.refl fun s hs => ⟨rfl, hconfigured s hs⟩) hv
    exact ⟨hanswers, hrun.rest.2.1, hrun.rest.2.2⟩

def federationSettings : CredentialsProperties where
  sts := some { enabled := true, roleArn := some "role/app" }

/-- The profile of the default files, and federation after it. -/
def devSettings : CredentialsProperties := { federationSettings with
  profile := some { name := some "dev" } }

def devMachine : World where
  environment := [("HOME", "home")]
  files := [(["home"], .directory), (["home", ".aws"], .directory),
    (["home", ".aws", "credentials"], .file
      (asciiBytes "[dev]\naws_access_key_id = AKIADEV\naws_secret_access_key = s"))]

/-- The same machine with keys and a profile for the SDK itself. -/
def ownMachine : World := devMachine.withEnvironment
  ([("AWS_PROFILE", "dev"), ("AWS_ACCESS_KEY_ID", "AKIAOWN"), ("AWS_SECRET_ACCESS_KEY", "own")] ++
    devMachine.environment)

theorem agreesOutside_append {env own : Environment}
    (h : ∀ v ∈ own, v.1 ∈ Environment.ambient) : env.AgreesOutside (own ++ env) := by
  intro name hn
  unfold Environment.get?
  induction own with
  | nil => rfl
  | cons v rest ih =>
    have hne : (name == v.1) = false := by
      refine beq_false_of_ne fun he => hn ?_
      rw [he]
      exact h v List.mem_cons_self
    rw [List.cons_append, List.lookup_cons, hne]
    exact ih fun x hx => h x (List.mem_cons_of_mem _ hx)

def devFederation : Source :=
  .ofWebIdentity { client := ⟨"eu-west-1", .unsigned⟩, role := some "role/app" } refreshInterval

def devPair : Provider := .chain [.leaf (.profile ⟨⟨"dev", none⟩, none⟩), .leaf devFederation]

theorem devMachine_isPlain : devMachine.environment.IsPlain := by
  intro name _ text ht
  have htext : text = "home" := by
    unfold devMachine Environment.get? at ht
    rw [List.lookup_cons] at ht
    split at ht
    · exact (Option.some.inj ht).symm
    · cases ht
  rw [htext]
  decide

set_option maxRecDepth 20000 in
/-- A machine without keys for the SDK itself, and with them. -/
theorem resolve_ambient_dev :
    devMachine.Ambient ownMachine ∧ selected true devSettings = [.profile, .federation] ∧
      makeIn none "eu-west-1" devSettings devMachine = (.ok devPair, federating devMachine) ∧
      makeIn none "eu-west-1" devSettings ownMachine = (.ok devPair, federating ownMachine) ∧
      freshClient (some "eu-west-1") ownMachine = freshClient (some "eu-west-1") devMachine ∧
      Provider.answers [.resolve] (devPair, federating devMachine) =
        [.ok ⟨⟨.text "AKIADEV", .text "s", .absent⟩, none, some NamedProfile.name⟩] ∧
      Provider.answers [.resolve] (devPair, federating ownMachine) =
        Provider.answers [.resolve] (devPair, federating devMachine) := by
  have h : devMachine.Ambient ownMachine :=
    .intro (agreesOutside_append (by decide)) devMachine_isPlain
  have hpath : ∀ given ∈ devSettings.profile, ∀ path ∈ given.path, path.IsPlain := by
    intro given hg path hp
    cases hg
    cases hp
  have hsel : selected true devSettings = [.profile, .federation] := by decide
  have hne : selected (none.getD devMachine.webIdentity) devSettings ≠ [] := by decide
  have hq : makeIn none "eu-west-1" devSettings devMachine = (.ok devPair, federating devMachine) :=
    rfl
  have hq' : makeIn none "eu-west-1" devSettings ownMachine =
      (.ok devPair, federating ownMachine) := rfl
  have hanswers : Provider.answers [.resolve] (devPair, federating devMachine) =
      [.ok ⟨⟨.text "AKIADEV", .text "s", .absent⟩, none, some NamedProfile.name⟩] := rfl
  have hevents : List.Forall₂ Event.Ambient [.resolve] [.resolve] :=
    .cons (.other fun env he => by cases he) .nil
  have hclient : freshClient (some "eu-west-1") ownMachine =
      freshClient (some "eu-west-1") devMachine := rfl
  obtain ⟨_, hmade, _⟩ := resolve_ambient none "eu-west-1" h hne hpath
  obtain ⟨_, _, _, hrun⟩ := hmade _ _ _ _ hq hq' fun _ => hclient
  exact ⟨h, hsel, hq, hq', hclient, hanswers, (hrun _ _ hevents).1⟩

/-- A machine without files whose active profile has a name. -/
def namedMachine : World := World.withEnvironment {} ([("AWS_PROFILE", "nope")] ++ [])

/-- Without a profile of the name that the SDK is given, federation is not made. -/
theorem not_made_unknownProfile :
    World.Ambient {} namedMachine ∧ selected true federationSettings = [.federation] ∧
      (∀ given ∈ federationSettings.profile, ∀ path ∈ given.path, path.IsPlain) ∧
      (∃ q, (makeIn none "eu-west-1" federationSettings {}).1 = .ok q) ∧
      (makeIn none "eu-west-1" federationSettings namedMachine).1 =
        .error (.profileUnknown "nope") := by
  have hplain : Environment.IsPlain [] := by
    intro name _ text ht
    cases ht
  have hagrees : Environment.AgreesOutside [] ([("AWS_PROFILE", "nope")] ++ []) :=
    agreesOutside_append (by decide)
  refine ⟨.intro hagrees hplain, by decide, ?_, ⟨_, rfl⟩, rfl⟩
  intro given hg
  cases hg

end Selection

end CloudCredentials
