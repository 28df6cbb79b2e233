import CloudCredentials.Proofs.BackedAsk
import CloudCredentials.Proofs.Frames

/-!
# Sources do not read the log

What a source answers, what becomes of it, and what it does to the world are the same whatever was
logged before it is asked. Each function that acts in a world commutes with a change of the log;
only a look adds to the log, so only there do the logs of the results differ.
-/

namespace CloudCredentials

/-- A world with another log. -/
def World.withLog (w : World) (log : List Record) : World := { w with log }

/-- What the sources of a type do does not depend on what was logged before. -/
def Behaviour.IgnoresLog {μ : Type} (b : Behaviour μ) : Prop :=
  ∀ s w log, ∃ log', b.ask s (w.withLog log) =
    ((b.ask s w).1, (b.ask s w).2.1, (b.ask s w).2.2.withLog log')

namespace World

variable (w : World) (log : List Record)

@[simp] theorem environment_withLog : (w.withLog log).environment = w.environment := rfl

@[simp] theorem files_withLog : (w.withLog log).files = w.files := rfl

@[simp] theorem clock_withLog : (w.withLog log).clock = w.clock := rfl

@[simp] theorem clients_withLog : (w.withLog log).clients = w.clients := rfl

@[simp] theorem webIdentity_withLog : (w.withLog log).webIdentity = w.webIdentity := rfl

@[simp] theorem valueOf_withLog (name : String) : (w.withLog log).valueOf name = w.valueOf name :=
  rfl

end World

/-! ### Files and profiles -/

section

variable (w : World) (log : List Record)

namespace ProfileFile

@[simp] theorem readSections_withLog (file : String) :
    readSections (w.withLog log) file = readSections w file := by
  simp only [readSections, World.environment_withLog, World.files_withLog]

@[simp] theorem credentialsFileKeys_withLog (file profile : String) :
    credentialsFileKeys (w.withLog log) file profile = credentialsFileKeys w file profile := by
  simp only [credentialsFileKeys, readSections_withLog]

@[simp] theorem configFileKeys_withLog (file profile : String) :
    configFileKeys (w.withLog log) file profile = configFileKeys w file profile := by
  simp only [configFileKeys, readSections_withLog]

end ProfileFile

namespace ActiveProfile

variable (a : ActiveProfile)

@[simp] theorem active?_withLog : a.active? (w.withLog log) = a.active? w := rfl

@[simp] theorem configFile_withLog : configFile (w.withLog log) = configFile w := rfl

@[simp] theorem credentialsFile_withLog : credentialsFile (w.withLog log) = credentialsFile w :=
  rfl

@[simp] theorem options_withLog : a.options (w.withLog log) = a.options w := by
  simp only [options, profiles, configFile_withLog, credentialsFile_withLog, active?_withLog,
    ProfileFile.readSections_withLog]

@[simp] theorem region_withLog : a.region (w.withLog log) = a.region w := by
  simp only [region, World.valueOf_withLog, options_withLog]

@[simp] theorem opened_withLog : a.opened (w.withLog log) = a.opened w := by
  simp only [opened, World.valueOf_withLog, World.clients_withLog, World.environment_withLog,
    options_withLog]

end ActiveProfile

@[simp] theorem unsignedClient_withLog (a : ActiveProfile) (region : Option String) :
    unsignedClient a region (w.withLog log) = unsignedClient a region w := by
  simp only [unsignedClient, clientPlan, checkedRegion, ClientPlan.endpoint, World.clients_withLog,
    World.environment_withLog, ActiveProfile.region_withLog, ActiveProfile.options_withLog]

@[simp] theorem freshClient_withLog (region : Option String) :
    freshClient region (w.withLog log) = freshClient region w := by
  simp only [freshClient, ActiveProfile.opened_withLog, unsignedClient_withLog]

theorem NamedProfile.load_withLog (p : NamedProfile) :
    ∃ log', p.load (w.withLog log) = ((p.load w).1, (p.load w).2.withLog log') := by
  unfold load
  cases p.path with
  | some path =>
    simp only [loadFrom, World.files_withLog, ProfileFile.credentialsFileKeys_withLog]
    cases w.files.isFile path.text with
    | false => exact ⟨log, rfl⟩
    | true =>
      rcases ProfileFile.credentialsFileKeys w path.text p.profile with failure | _ | keys
      · exact ⟨log, rfl⟩
      · exact ⟨log, rfl⟩
      · exact ⟨_, rfl⟩
  | none =>
    simp only [loadDefault, World.environment_withLog, ProfileFile.credentialsFileKeys_withLog,
      ProfileFile.configFileKeys_withLog]
    cases w.environment.defaultCredentialsFile with
    | none => exact ⟨log, rfl⟩
    | some credentialsFile =>
      cases w.environment.defaultConfigFile with
      | none => exact ⟨log, rfl⟩
      | some configFile =>
        dsimp only
        rcases ProfileFile.credentialsFileKeys w credentialsFile.text p.profile with
          failure | _ | keys
        · exact ⟨log, rfl⟩
        · rcases ProfileFile.configFileKeys w configFile.text p.profile with failure | _ | keys
          · exact ⟨log, rfl⟩
          · exact ⟨log, rfl⟩
          · exact ⟨_, rfl⟩
        · exact ⟨_, rfl⟩

theorem World.withLog_isFrame : World.IsFrame (World.withLog · log) :=
  ⟨fun _ => rfl, fun _ => rfl, fun _ => rfl, fun _ => rfl, fun _ _ => rfl, fun _ _ _ => rfl⟩

/-! ### Sources that load once -/

/-- Neither the looks of a source nor the uses of what it holds read the log; a look may add to
it. -/
structure Backing.IgnoresLog {σ η : Type} (b : Backing σ η) : Prop where
  load : ∀ parameters w log, ∃ log', b.load parameters (w.withLog log) =
    ((b.load parameters w).1, (b.load parameters w).2.1, (b.load parameters w).2.2.withLog log')
  use : ∀ held w log, b.use held (w.withLog log) =
    ((b.use held w).1, (b.use held w).2.1, (b.use held w).2.2.withLog log)

namespace Backed

variable {σ η : Type} {b : Backing σ η} (hb : b.IgnoresLog) (name shown : String) (p : Backed σ η)

include hb

theorem hold_withLog : ∃ log', p.hold b name shown (w.withLog log) =
    ((p.hold b name shown w).1, (p.hold b name shown w).2.1,
      (p.hold b name shown w).2.2.withLog log') := by
  unfold hold
  cases p.held with
  | some held => exact ⟨log, rfl⟩
  | none =>
    obtain ⟨log', hl⟩ := hb.load p.parameters (looking shown w) (looking shown (w.withLog log)).log
    have hl : b.load p.parameters (looking shown (w.withLog log)) = _ := hl
    unfold looking at hl
    refine ⟨log', ?_⟩
    dsimp only
    rw [hl]
    rcases b.load p.parameters (w.record _ _ _) with ⟨failure | _ | held, parameters, v⟩
    · rfl
    · rfl
    · rfl

theorem ask_withLog : ∃ log', p.ask b name shown (w.withLog log) =
    ((p.ask b name shown w).1, (p.ask b name shown w).2.1,
      (p.ask b name shown w).2.2.withLog log') := by
  obtain ⟨log', hv⟩ := hold_withLog w log hb name shown p
  refine ⟨log', ?_⟩
  unfold ask
  rw [hv]
  rcases p.hold b name shown w with ⟨failure | held, q, v⟩
  · rfl
  · dsimp only
    rw [hb.use]
    rcases b.use held v with ⟨failure | keys, held', u⟩
    · rfl
    · rfl

end Backed

end

/-! ### The sources -/

theorem InstanceProfile.backing_ignoresLog : backing.IgnoresLog where
  load _ w log := ⟨log, by simp only [backing, load_frame (World.withLog_isFrame log)]⟩
  use l w log := use_frame (World.withLog_isFrame log) w l

theorem NamedProfile.backing_ignoresLog : backing.IgnoresLog where
  load p w log := by
    obtain ⟨log', h⟩ := load_withLog w log p
    exact ⟨log', by simp only [backing, h]⟩
  use _ _ _ := rfl

theorem WebIdentity.backing_ignoresLog (client : Client) : (backing client).IgnoresLog where
  load _ _ log := ⟨log, rfl⟩
  use r w log := r.use_frame (World.withLog_isFrame log) w fun _ => rfl

namespace Standard

variable (w : World) (log : List Record)

theorem inEnvironment_withLog : inEnvironment (w.withLog log) = inEnvironment w := by
  simp only [inEnvironment, World.environment_withLog]

theorem inWebIdentity_withLog (a : ActiveProfile) (options : ProfileFile.Section) :
    inWebIdentity a options (w.withLog log) = inWebIdentity a options w := by
  have hs : identitySetting a options (w.withLog log) = identitySetting a options w := rfl
  unfold inWebIdentity
  rw [hs, World.webIdentity_withLog, World.clock_withLog]

theorem inFiles_withLog (profile : String) :
    inFiles profile (w.withLog log) = inFiles profile w := by
  unfold inFiles
  rw [ProfileFile.credentialsFileKeys_withLog, ProfileFile.configFileKeys_withLog,
    ActiveProfile.credentialsFile_withLog, ActiveProfile.configFile_withLog]

theorem inPlaces_withLog (a : ActiveProfile) (profiles : ProfileFile.Sections) :
    inPlaces a profiles (w.withLog log) = inPlaces a profiles w := by
  unfold inPlaces
  rw [ActiveProfile.active?_withLog, inEnvironment_withLog]
  simp only [inWebIdentity_withLog, inFiles_withLog]

theorem lookInPlaces_withLog (a : ActiveProfile) : lookInPlaces a (w.withLog log) =
    ((lookInPlaces a w).1, (lookInPlaces a w).2.1, (lookInPlaces a w).2.2.withLog log) := by
  simp only [lookInPlaces, ActiveProfile.options_withLog, inPlaces_withLog,
    InstanceProfile.load_frame (World.withLog_isFrame log)]
  rcases a.options w with ⟨failure | options, known⟩
  · rfl
  · dsimp only
    rcases inPlaces known (known.known.getD []) w with failure | _ | found
    · rfl
    · rfl
    · rfl

theorem load_withLog (a : ActiveProfile) : load a (w.withLog log) =
    ((load a w).1, (load a w).2.1, (load a w).2.2.withLog log) := by
  rcases hn : w.looks.next none with ⟨look, rest⟩
  have hn' : (w.withLog log).looks.next none = (look, rest) := hn
  cases look with
  | some look =>
    simp only [load, hn, hn']
    rfl
  | none =>
    have hl : load a w = lookInPlaces (view a) { w.call .look with looks := rest } := by
      simp only [load, hn]
    have hl' : load a (w.withLog log) =
        lookInPlaces (view a) (({ w.call .look with looks := rest } : World).withLog log) := by
      simp only [load, hn']
      rfl
    rw [hl, hl', lookInPlaces_withLog]

theorem backing_ignoresLog : backing.IgnoresLog where
  load a w log := ⟨log, load_withLog w log a⟩
  use found w log := by
    cases found with
    | fixed keys => rfl
    | environment lease =>
      simp only [backing, use]
      rw [Lease.use_frame (World.withLog_isFrame log) w fun _ => rfl]
    | role role view =>
      simp only [backing, use]
      rw [role.use_frame (World.withLog_isFrame log) w
        fun _ => by simp only [client, unsignedClient_withLog]]
    | machine lease =>
      simp only [backing, use]
      rw [InstanceProfile.use_frame (World.withLog_isFrame log)]
    | other method lease =>
      simp only [backing, use]
      rw [Lease.use_frame (World.withLog_isFrame log) w fun _ => rfl]

end Standard

theorem Source.behaviour_ignoresLog : behaviour.IgnoresLog := by
  intro s w log
  cases s with
  | fixed keys => exact ⟨log, rfl⟩
  | instanceProfile state =>
    obtain ⟨log', h⟩ := state.ask_withLog w log InstanceProfile.backing_ignoresLog
      InstanceProfile.name InstanceProfile.shown
    exact ⟨log', by simp only [behaviour, ask, h]⟩
  | profile state =>
    obtain ⟨log', h⟩ := state.ask_withLog w log NamedProfile.backing_ignoresLog NamedProfile.name
      state.parameters.shown
    exact ⟨log', by simp only [behaviour, ask, h]⟩
  | webIdentity state refresher =>
    obtain ⟨log', h⟩ := state.ask_withLog w log
      (WebIdentity.backing_ignoresLog state.parameters.client) WebIdentity.name
      state.parameters.shown
    exact ⟨log', by simp only [behaviour, ask, h]⟩
  | standard state =>
    obtain ⟨log', h⟩ := state.ask_withLog w log Standard.backing_ignoresLog Standard.name
      Standard.shown
    exact ⟨log', by simp only [behaviour, ask, h]⟩
  | scripted name answers => exact ⟨log, rfl⟩

end CloudCredentials
