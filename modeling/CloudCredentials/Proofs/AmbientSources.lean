import CloudCredentials.Proofs.AmbientVariables
import CloudCredentials.Proofs.BackedAsk
import CloudCredentials.Proofs.Frames
import CloudCredentials.Proofs.ProviderRun
import CloudCredentials.Proofs.TreeAlike

/-!
# Configured sources do not read ambient variables

A source other than the SDK's standard lookup answers in the same way whatever keys and whatever
profile the environment holds for the SDK. It does the same to the world, and so do providers that
are made of such sources.
-/

namespace CloudCredentials

/-! ### Worlds -/

/-- A world with another environment. -/
def World.withEnvironment (w : World) (environment : Environment) : World := { w with environment }

theorem World.withEnvironment_isFrame (environment : Environment) :
    World.IsFrame (World.withEnvironment · environment) :=
  ⟨fun _ => rfl, fun _ => rfl, fun _ => rfl, fun _ => rfl, fun _ _ => rfl, fun _ _ _ => rfl⟩

/-- The second world is the first one but for ambient variables; file names are plain in both. -/
inductive World.Ambient (w : World) : World → Prop
  | intro {environment : Environment} (h : w.environment.AgreesOutside environment)
    (hp : w.environment.IsPlain) : Ambient w (w.withEnvironment environment)

theorem World.Ambient.rest {w w' : World} (h : w.Ambient w') :
    w'.webIdentity = w.webIdentity ∧ w'.calls = w.calls ∧ w'.log = w.log := by
  cases h with
  | intro _ _ => exact ⟨rfl, rfl, rfl⟩

theorem World.Later.environment {w v : World} (h : w.Later v) : v.environment = w.environment := by
  obtain ⟨calls, log, rfl⟩ := h
  exact (World.after_frame w calls).1

/-! ### Profile files -/

theorem ProfileFile.expandName_plain {file : String} (hf : '$' ∉ file.toList)
    (env : Environment) : expandName env file = expandTilde env.home file := by
  simp only [expandName, expandReferences_of_not_mem _ _ _ hf, String.ofList_toList]

section

variable {w : World} {environment : Environment}
  (h : w.environment.AgreesOutside environment) (hp : w.environment.IsPlain)

include h

namespace ProfileFile

theorem readSections_ambient {file : String} (hf : '$' ∉ file.toList) :
    readSections (w.withEnvironment environment) file = readSections w file := by
  have hname : expandName environment file = expandName w.environment file := by
    rw [expandName_plain hf, expandName_plain hf, h.home]
  simp only [readSections, World.withEnvironment, hname]

theorem credentialsFileKeys_ambient {file : String} (hf : '$' ∉ file.toList) (profile : String) :
    credentialsFileKeys (w.withEnvironment environment) file profile =
      credentialsFileKeys w file profile := by
  simp only [credentialsFileKeys, readSections_ambient h hf]

theorem configFileKeys_ambient {file : String} (hf : '$' ∉ file.toList) (profile : String) :
    configFileKeys (w.withEnvironment environment) file profile =
      configFileKeys w file profile := by
  simp only [configFileKeys, readSections_ambient h hf]

end ProfileFile

/-! ### Looking -/

theorem NamedProfile.loadFrom_ambient (p : NamedProfile) {path : Path} (hpath : path.IsPlain) :
    p.loadFrom path (w.withEnvironment environment) =
      ((p.loadFrom path w).1, (p.loadFrom path w).2.withEnvironment environment) := by
  unfold loadFrom
  rw [ProfileFile.credentialsFileKeys_ambient h hpath,
    show (w.withEnvironment environment).files = w.files from rfl]
  split
  · rcases ProfileFile.credentialsFileKeys w path.text p.profile with failure | _ | keys
    · rfl
    · rfl
    · rfl
  · rfl

include hp

theorem NamedProfile.loadDefault_ambient (p : NamedProfile) :
    p.loadDefault (w.withEnvironment environment) =
      ((p.loadDefault w).1, (p.loadDefault w).2.withEnvironment environment) := by
  unfold loadDefault
  rw [show (w.withEnvironment environment).environment = environment from rfl,
    h.credentialsFile, h.configFile]
  cases hc : w.environment.defaultCredentialsFile with
  | none => rfl
  | some credentialsFile =>
    cases hf : w.environment.defaultConfigFile with
    | none => rfl
    | some configFile =>
      have hcredentials : credentialsFile.IsPlain := hp.fileOr (by decide) (by decide) hc
      have hconfig : configFile.IsPlain := hp.fileOr (by decide) (by decide) hf
      dsimp only
      rw [ProfileFile.credentialsFileKeys_ambient h hcredentials,
        ProfileFile.configFileKeys_ambient h hconfig]
      rcases ProfileFile.credentialsFileKeys w credentialsFile.text p.profile with
        failure | _ | keys
      · rfl
      · rcases ProfileFile.configFileKeys w configFile.text p.profile with failure | _ | keys
        · rfl
        · rfl
        · rfl
      · rfl

theorem NamedProfile.load_ambient {p : NamedProfile}
    (hpath : ∀ path ∈ p.path, path.IsPlain) :
    p.load (w.withEnvironment environment) =
      ((p.load w).1, (p.load w).2.withEnvironment environment) := by
  unfold load
  cases hq : p.path with
  | some path => exact p.loadFrom_ambient h (hpath path hq)
  | none => exact p.loadDefault_ambient h hp

omit hp

theorem WebIdentity.orVariable_ambient (given : Option String) {name : String}
    (hn : name ∉ Environment.ambient) :
    orVariable given (w.withEnvironment environment) name = orVariable given w name := by
  unfold orVariable
  rw [show (w.withEnvironment environment).valueOf name = w.valueOf name from h name hn]

theorem WebIdentity.load_ambient (p : WebIdentity) :
    p.load (w.withEnvironment environment) = p.load w := by
  unfold load
  rw [orVariable_ambient h _ (by decide), orVariable_ambient h _ (by decide),
    orVariable_ambient h _ (by decide)]
  rfl

end

/-! ### Sources that load once -/

/-- When looking and using commute with a change of the environment, then so does asking. -/
theorem Backed.ask_withEnvironment {σ η : Type} {b : Backing σ η} (name shown : String)
    {p : Backed σ η} {w : World} (environment : Environment)
    (load : b.load p.parameters ((looking shown w).withEnvironment environment) =
      ((b.load p.parameters (looking shown w)).1, (b.load p.parameters (looking shown w)).2.1,
        (b.load p.parameters (looking shown w)).2.2.withEnvironment environment))
    (use : ∀ held w, b.use held (w.withEnvironment environment) =
      ((b.use held w).1, (b.use held w).2.1, (b.use held w).2.2.withEnvironment environment)) :
    p.ask b name shown (w.withEnvironment environment) =
      ((p.ask b name shown w).1, (p.ask b name shown w).2.1,
        (p.ask b name shown w).2.2.withEnvironment environment) := by
  have hhold : p.hold b name shown (w.withEnvironment environment) =
      ((p.hold b name shown w).1, (p.hold b name shown w).2.1,
        (p.hold b name shown w).2.2.withEnvironment environment) := by
    have load : b.load p.parameters (looking shown (w.withEnvironment environment)) = _ := load
    unfold looking at load
    unfold hold
    cases p.held with
    | some held => rfl
    | none =>
      dsimp only
      rw [load]
      rcases b.load p.parameters (w.record _ _ _) with ⟨failure | _ | held, parameters, v⟩
      · rfl
      · rfl
      · rfl
  unfold ask
  rw [hhold]
  rcases p.hold b name shown w with ⟨failure | held, q, v⟩
  · rfl
  · dsimp only
    rw [use]
    rcases b.use held v with ⟨failure | keys, held', u⟩
    · rfl
    · rfl

theorem NamedProfile.ask_parameters (name shown : String) (state : Backed NamedProfile Keys)
    (w : World) : (state.ask backing name shown w).2.1.parameters = state.parameters := by
  have loaded {found : Except Failure (Option Keys)} {parameters : NamedProfile} {v : World}
      (hl : backing.load state.parameters (Backed.looking shown w) = (found, parameters, v)) :
      parameters = state.parameters := by
    have hp : (backing.load state.parameters (Backed.looking shown w)).2.1 = state.parameters := rfl
    rw [← hp, hl]
  have ha := Backed.ask_asked backing name shown state w
  generalize state.ask backing name shown w = r at ha
  cases ha with
  | failed _ hl | absent _ hl => exact loaded hl
  | used hh _ =>
    cases hh with
    | held _ => rfl
    | found _ hl => exact loaded hl

namespace Source

/-- A source that settings can ask for, with a path that refers to no variable. The standard
lookup is not one. -/
def IsConfigured : Source → Prop
  | .standard _ => False
  | .profile state => ∀ path ∈ state.parameters.path, path.IsPlain
  | _ => True

theorem ask_isConfigured {s : Source} (h : s.IsConfigured) (w : World) :
    (s.ask w).2.1.IsConfigured := by
  cases s with
  | profile state =>
    show ∀ path ∈ (state.ask NamedProfile.backing NamedProfile.name state.parameters.shown
      w).2.1.parameters.path, path.IsPlain
    rw [NamedProfile.ask_parameters]
    exact h
  | standard _ => exact h.elim
  | fixed _ | instanceProfile _ | webIdentity _ _ | scripted _ _ => trivial

theorem ask_withEnvironment {s : Source} (hs : s.IsConfigured) {w : World}
    {environment : Environment} (h : w.environment.AgreesOutside environment)
    (hp : w.environment.IsPlain) : s.ask (w.withEnvironment environment) =
      ((s.ask w).1, (s.ask w).2.1, (s.ask w).2.2.withEnvironment environment) := by
  have hframe := World.withEnvironment_isFrame environment
  cases s with
  | fixed keys => rfl
  | instanceProfile state =>
    have ha := Backed.ask_withEnvironment (b := InstanceProfile.backing) InstanceProfile.name
      InstanceProfile.shown (p := state) (w := w) environment
      (by simp only [InstanceProfile.backing, InstanceProfile.load_frame hframe])
      fun l w => InstanceProfile.use_frame hframe w l
    simp only [ask, ha]
  | profile state =>
    have hlook : (Backed.looking state.parameters.shown w).environment.AgreesOutside
        environment := h
    have ha := Backed.ask_withEnvironment (b := NamedProfile.backing) NamedProfile.name
      state.parameters.shown (p := state) (w := w) environment
      (by simp only [NamedProfile.backing, NamedProfile.load_ambient hlook hp hs])
      fun _ _ => rfl
    simp only [ask, ha]
  | webIdentity state refresher =>
    have hlook : (Backed.looking state.parameters.shown w).environment.AgreesOutside
        environment := h
    have ha := Backed.ask_withEnvironment (b := WebIdentity.backing state.parameters.client)
      WebIdentity.name state.parameters.shown (p := state) (w := w) environment
      (by simp only [WebIdentity.backing, WebIdentity.load_ambient hlook])
      fun r w => r.use_frame hframe w fun _ => rfl
    simp only [ask, ha]
  | standard _ => exact hs.elim
  | scripted name answers => rfl

/-- One source in two worlds. -/
def Same (s s' : Source) : Prop := s' = s ∧ s.IsConfigured

theorem ask_same {s s' : Source} {w w' : World} (hs : s.Same s') (h : w.Ambient w') :
    Ends Eq Same World.Ambient (s.ask w) (s'.ask w') := by
  obtain ⟨rfl, hs⟩ := hs
  cases h with
  | intro h hp =>
    rw [ask_withEnvironment hs h hp]
    have he := (s'.ask_later w).environment
    refine ⟨.refl (fun _ => rfl) _, ⟨rfl, ask_isConfigured hs w⟩, .intro ?_ ?_⟩
    · rw [he]
      exact h
    · rw [he]
      exact hp

theorem close_same {s s' : Source} {w w' : World} (hs : s.Same s') (h : w.Ambient w') :
    (s.close w).1.Same (s'.close w').1 ∧ (s.close w).2.Ambient (s'.close w').2 := by
  obtain ⟨rfl, hs⟩ := hs
  cases h with
  | intro h hp =>
    cases s' with
    | standard _ => exact hs.elim
    | scripted name answers => exact ⟨⟨rfl, trivial⟩, .intro h hp⟩
    | profile state => exact ⟨⟨rfl, hs⟩, .intro h hp⟩
    | fixed _ | instanceProfile _ | webIdentity _ _ => exact ⟨⟨rfl, trivial⟩, .intro h hp⟩

end Source

theorem World.Ambient.record {w w' : World} (h : w.Ambient w') (level : Level)
    (channel : Channel) (text : String) :
    (w.record level channel text).Ambient (w'.record level channel text) := by
  cases h with
  | intro h hp => exact .intro h hp

theorem Source.tick_same {s s' : Source} {w w' : World} (hs : s.Same s') (h : w.Ambient w') :
    (s.tick w).1.Same (s'.tick w').1 ∧ (s.tick w).2.Ambient (s'.tick w').2 := by
  have ha := Background.tick_alike (fun level channel text h => h.record level channel text)
    (ask_same hs h)
  obtain ⟨rfl, hs⟩ := hs
  cases s' with
  | webIdentity _ _ => exact ⟨ha.state, ha.world⟩
  | fixed _ | instanceProfile _ | profile _ | standard _ | scripted _ _ => exact ⟨⟨rfl, hs⟩, h⟩

end CloudCredentials
