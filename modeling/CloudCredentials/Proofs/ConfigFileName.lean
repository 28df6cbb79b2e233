import CloudCredentials.Proofs.NamedFiles
import CloudCredentials.Proofs.YamlFaults
import CloudCredentials.Settings.Load

/-!
# The config file that was named

Loading settings checks that the named config file is there, and then reads the file that its path
denotes once a leading tilde is expanded. Only a file that is not there is reported as missing; and
the file that was checked is the one that is read exactly when the path does not start at a home
directory.
-/

namespace CloudCredentials

/-! ### Missing files -/

/-- The failure is another one than a missing file. -/
def Failure.isOther (f : Failure) : Bool := !f.isMissingFile

theorem Failure.isOther_of_isDocument {f : Failure} (h : f.isDocument = true) :
    f.isOther = true := by
  rw [isOther, isMissingFile_of_isDocument h]
  rfl

theorem bytesOf_eq (files : Files) (name : String) :
    bytesOf files name = .ok ((files.content? name).getD []) := by
  unfold bytesOf
  cases hc : files.content? name with
  | none =>
    rw [Files.isFile_eq_false_iff.mpr hc]
    rfl
  | some content =>
    rw [if_pos (Files.isFile_iff_content?.mpr ⟨content, hc⟩)]
    unfold Files.content? at hc
    cases hr : files.read name with
    | error fault =>
      rw [hr] at hc
      cases hc
    | ok read =>
      rw [hr] at hc
      cases hc
      rfl

theorem fileVariables_isOther (w : World) : FailsOnly Failure.isOther (fileVariables w) := by
  unfold fileVariables
  rw [bytesOf_eq]
  refine .bind (failsOnly_ok _) fun bytes => .bind ?_ fun cs => failsOnly_pure _
  cases Text.decodeUtf8 bytes with
  | error fault => exact (failsOnly_error _).mpr rfl
  | ok cs => exact failsOnly_ok cs

theorem pairEntries_ofDocument (number : Nat) (elements : List Value) :
    OfDocument (pairEntries number elements) := by
  induction elements generalizing number with
  | nil => exact failsOnly_ok []
  | cons value rest ih =>
    unfold pairEntries
    split
    · exact (failsOnly_error _).mpr rfl
    · exact .ite ((failsOnly_map _).mpr (ih _)) ((failsOnly_error _).mpr rfl)
    · exact (failsOnly_error _).mpr rfl

theorem mappingOf_ofDocument (value : Value) : OfDocument (mappingOf value) := by
  unfold mappingOf
  refine .ite (failsOnly_ok _) ?_
  split
  · exact failsOnly_ok _
  · split
    · exact (failsOnly_map _).mpr (pairEntries_ofDocument _ _)
    · exact (failsOnly_error _).mpr rfl

theorem configSettings_ofDocument (bytes : List UInt8) : OfDocument (configSettings bytes) :=
  .bind (Yaml.read_ofDocument bytes) fun value => .bind (mappingOf_ofDocument value) fun _ =>
    .ite (failsOnly_ok _) ((failsOnly_error _).mpr rfl)

theorem configFileSettings_isOther (path : Path) (w : World) :
    FailsOnly Failure.isOther (configFileSettings path w) := by
  unfold configFileSettings
  split
  · exact (failsOnly_error _).mpr rfl
  · rw [bytesOf_eq]
    exact (configSettings_ofDocument _).mono fun _ => Failure.isOther_of_isDocument

theorem settingsOf_isOther (origin : String) (vars : Variables) :
    FailsOnly Failure.isOther (settingsOf origin vars) := by
  have one (s : Section) : FailsOnly Failure.isOther (sectionOf origin s vars) := by
    unfold sectionOf
    dsimp only
    split
    · exact failsOnly_ok _
    · split
      · exact (failsOnly_error _).mpr rfl
      · exact failsOnly_ok _
      · exact failsOnly_ok _
      · exact failsOnly_ok _
  unfold settingsOf
  induction Section.all with
  | nil => exact failsOnly_ok _
  | cons s rest ih => exact .bind (one s) fun _ => .bind ih fun _ => failsOnly_pure _

theorem settingsFrom_isOther (title : String) (path : Option Path) (w : World) :
    FailsOnly Failure.isOther (settingsFrom title path w) := by
  have merged (assigned : Variables) (lowest : Mapping) : FailsOnly Failure.isOther (do
      let highest ← settingsOf environmentOrigin (Variables.ofEnvironment w.environment)
      let middle ← settingsOf variableFileOrigin assigned
      return mergeSources highest middle lowest) :=
    .bind (settingsOf_isOther _ _) fun _ => .bind (settingsOf_isOther _ _) fun _ =>
      failsOnly_pure _
  refine .bind (.bind (fileVariables_isOther w) fun assigned => ?_) fun m => ?_
  · cases path with
    | none => exact merged _ _
    | some path => exact .bind (configFileSettings_isOther path w) fun _ => merged _ _
  · cases checkSettings m with
    | error problems => exact (failsOnly_error _).mpr rfl
    | ok settings => exact failsOnly_ok settings

theorem loadSettings_missing_iff (name : String) (w : World) :
    (∃ failure, (loadSettings (some name) w).1 = .error failure ∧ failure.isMissingFile = true) ↔
      w.files.isFile (Path.ofText name).text = false := by
  cases hf : w.files.isFile (Path.ofText name).text with
  | false =>
    rw [loadSettings_of_missing hf]
    exact iff_of_true ⟨_, rfl, rfl⟩ rfl
  | true =>
    refine iff_of_false ?_ Bool.noConfusion
    rintro ⟨failure, h, hm⟩
    simp only [loadSettings, hf, if_true] at h
    have hother := settingsFrom_isOther _ _ _ failure h
    rw [Failure.isOther, hm] at hother
    cases hother

/-! ### The file that is read -/

/-- The config file of this name is the one that is read: its content is the layer of the config
file, and worlds that agree on it, on the environment and on the variable file have the same
settings or the same failure. -/
structure ReadsNamed (name : String) : Prop where
  layer : ∀ (w : World) content, w.files.content? (Path.ofText name).text = some content →
    configFileSettings (Path.ofText name) w = configSettings content
  agree : ∀ w w' : World, w'.environment = w.environment →
    w'.files.content? variableFileName = w.files.content? variableFileName →
    w'.files.content? (Path.ofText name).text = w.files.content? (Path.ofText name).text →
    (loadSettings (some name) w').1 = (loadSettings (some name) w).1

theorem configFileSettings_of_unmoved {path : Path} {w : World}
    (h : path.expandHome w.environment.home = some path) :
    configFileSettings path w = configSettings ((w.files.content? path.text).getD []) := by
  unfold configFileSettings
  rw [h]
  dsimp only
  rw [bytesOf_eq]
  rfl

theorem settingsFrom_congr {title : String} {path : Path} {w w' : World}
    (henvironment : w'.environment = w.environment)
    (hvariables : w'.files.content? variableFileName = w.files.content? variableFileName)
    (hconfig : configFileSettings path w' = configFileSettings path w) :
    settingsFrom title (some path) w' = settingsFrom title (some path) w := by
  have hfile : fileVariables w' = fileVariables w := by
    simp only [fileVariables, bytesOf_eq, henvironment, hvariables]
  simp only [settingsFrom, gatherSettings, hfile, hconfig, henvironment]

/-- Worlds that agree on the checked file have the same settings if their config layers agree where
the file is there. -/
theorem loadSettings_congr {name : String} {w w' : World}
    (henvironment : w'.environment = w.environment)
    (hvariables : w'.files.content? variableFileName = w.files.content? variableFileName)
    (hfile : w'.files.content? (Path.ofText name).text = w.files.content? (Path.ofText name).text)
    (hconfig : ∀ content, w.files.content? (Path.ofText name).text = some content →
      configFileSettings (Path.ofText name) w' = configFileSettings (Path.ofText name) w) :
    (loadSettings (some name) w').1 = (loadSettings (some name) w).1 := by
  cases hc : w.files.content? (Path.ofText name).text with
  | none =>
    rw [loadSettings_of_missing (Files.isFile_eq_false_iff.mpr hc),
      loadSettings_of_missing (Files.isFile_eq_false_iff.mpr (hfile.trans hc))]
  | some content =>
    have hthere (v : World) (hv : v.files.content? (Path.ofText name).text = some content) :
        v.files.isFile (Path.ofText name).text = true :=
      Files.isFile_iff_content?.mpr ⟨content, hv⟩
    simp only [loadSettings, hthere w hc, hthere w' (hfile.trans hc), if_true]
    exact settingsFrom_congr henvironment hvariables (hconfig content hc)

theorem readsNamed_of_not_startsAtHome {name : String}
    (h : (Path.ofText name).startsAtHome = false) : ReadsNamed name where
  layer w content hc := by
    rw [configFileSettings_of_unmoved (Path.expandHome_of_not_startsAtHome _ h), hc]
    rfl
  agree w w' henvironment hvariables hfile := by
    refine loadSettings_congr henvironment hvariables hfile fun content hc => ?_
    rw [configFileSettings_of_unmoved (Path.expandHome_of_not_startsAtHome _ h),
      configFileSettings_of_unmoved (Path.expandHome_of_not_startsAtHome _ h), hfile]

theorem readsNamed_of_no_file {name : String}
    (h : ∀ files : Files, files.content? (Path.ofText name).text = none) : ReadsNamed name where
  layer w content hc := by
    rw [h] at hc
    cases hc
  agree w w' henvironment hvariables hfile := by
    refine loadSettings_congr henvironment hvariables hfile fun content hc => ?_
    rw [h] at hc
    cases hc

/-- Without a known home directory, what follows the check does not get to a path that starts
there. -/
theorem not_readsNamed_of_startsAtHome {name : String} {files : Files} {content : List UInt8}
    (hs : (Path.ofText name).startsAtHome = true)
    (hc : files.content? (Path.ofText name).text = some content) : ¬ ReadsNamed name := by
  intro hreads
  have hhome : (Path.ofText name).expandHome none = none := by
    unfold Path.expandHome
    rw [hs]
    split
    · contradiction
    · split
      · contradiction
      · rfl
  have hlayer := hreads.layer { files } content hc
  have hunknown : configFileSettings (Path.ofText name) { files } = .error .noHome := by
    have hnone : (Path.ofText name).expandHome (Environment.home []) = none := hhome
    unfold configFileSettings
    rw [hnone]
  rw [hunknown] at hlayer
  have hdocument := configSettings_ofDocument content .noHome hlayer.symm
  cases hdocument

/-- A directory whose name is a tilde has a config file, and the home directory may have another
one. -/
def tildeWorld (others : Files) : World where
  environment := [("HOME", "home")]
  files := (["~", "aws.yml"], .file (asciiBytes "region: \x7bstatic: eu-west-1\x7d")) ::
    (["~"], .directory) :: (["home"], .directory) :: others

end CloudCredentials
