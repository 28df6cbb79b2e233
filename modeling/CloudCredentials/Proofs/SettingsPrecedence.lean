import CloudCredentials.Proofs.SettingsSources
import Mathlib

/-!
# Precedence of the sources

Settings whose sources give texts to leaves are the settings of one tree, in which each leaf has
the text of the first source that gives it one: the environment, then the variable file, then the
config file. No source hides what another one says about other leaves.
-/

namespace CloudCredentials

/-! ### One tree of texts -/

/-- The text at the end of a path. -/
def Value.textAt? : Value → List String → Option String
  | v, [] => v.text?
  | .map m, name :: path => (Mapping.get? m name).bind fun v => v.textAt? path
  | _, _ :: _ => none

def Mapping.textAt? (m : Mapping) (path : List String) : Option String :=
  (Value.map m).textAt? path

/-- The texts of the leaves of a section that have one. -/
def Section.entries (s : Section) (a : Texts) : List (List String × String) :=
  s.leaves.filterMap fun path => (a path).map (path, ·)

/-- The tree in which each leaf of the settings has its text; without one it is absent. -/
def treeOf (a : Section → Texts) : Mapping :=
  sectionEntries fun s => (Mapping.ofTexts (s.entries (a s))).given

theorem Section.mem_entries {s : Section} {a : Texts} {e : List String × String} :
    e ∈ s.entries a ↔ e.1 ∈ s.leaves ∧ a e.1 = some e.2 := by
  obtain ⟨path, text⟩ := e
  simp only [Section.entries, List.mem_filterMap, Option.map_eq_some_iff, Prod.mk.injEq]
  constructor
  · rintro ⟨path, hpath, text, ha, rfl, rfl⟩
    exact ⟨hpath, ha⟩
  · rintro ⟨hpath, ha⟩
    exact ⟨path, hpath, text, ha, rfl, rfl⟩

theorem treeOf_gives (a : Section → Texts) : (treeOf a).Gives a := by
  refine .of_sections fun s => Fits.ofTexts (fun e he => ?_) fun path text hlead ha => ?_
  · obtain ⟨hpath, ha⟩ := Section.mem_entries.mp he
    exact ⟨Section.leads_of_mem_leaves hpath, ha⟩
  · have hpath := Section.mem_leaves_of_leads hlead
    exact List.mem_map.mpr ⟨(path, text), Section.mem_entries.mpr ⟨hpath, ha⟩, rfl⟩

theorem Fits.textAt?_eq {a : Texts} {s : Layout} {v : Option Value} {path : List String}
    (h : Fits a s v) (hpath : s.leads path = true) : v.bind (·.textAt? path) = a path := by
  induction path generalizing a s v with
  | nil =>
    cases h with
    | leaf h =>
      rw [h]
      cases ha : a [] <;> simp [Value.textAt?, Value.text?]
    | absent _ => cases hpath
    | group _ _ _ => cases hpath
  | cons name path ih =>
    cases h with
    | leaf _ => cases hpath
    | absent h =>
      have hnone : a (name :: path) = none := by
        simpa using fun hn => h ⟨name :: path, hpath, hn⟩
      rw [hnone]
      rfl
    | group _ hparts _ =>
      obtain ⟨part, hp, hlead⟩ := Layout.leads_cons hpath
      exact ih (hparts name part hp) hlead

namespace Mapping.Gives

variable {m n : Mapping} {a b : Section → Texts}

/-- The text of each leaf is where its path leads. -/
theorem textAt?_eq (h : m.Gives a) {s : Section} {path : List String} (hpath : path ∈ s.leaves) :
    m.textAt? (s.name :: path) = a s path :=
  (h.fits s).textAt?_eq (Section.leads_of_mem_leaves hpath)

theorem congr (h : m.Gives a) (hab : ∀ s : Section, ∀ path ∈ s.leaves, a s path = b s path) :
    m.Gives b :=
  ⟨h.nodup, fun s => (h.fits s).congr fun path hlead =>
    hab s path (Section.mem_leaves_of_leads hlead)⟩

theorem layered (h : m.Gives a) (h' : n.Gives b) :
    (Mapping.over n m).Gives fun s => (a s).orElse (b s) := by
  refine ⟨names_over_nodup h'.nodup m, fun s => ?_⟩
  rw [get?_over n h.nodup]
  exact (h.fits s).above (h'.fits s)

end Mapping.Gives

/-! ### Checking trees of the same texts -/

/-- Two mappings give the same texts below each name. -/
def SameParts (a : Texts) (parts : List (String × Layout)) (m n : Mapping) : Prop :=
  ∀ name part, parts.lookup name = some part →
    Fits (a.under name) part (m.get? name) ∧ Fits (a.under name) part (n.get? name)

theorem field_congr_of_leaf {a : Texts} {m n : Mapping} {name : String} {α : Type} (default : α)
    (check : Value → Checked α) (hm : Fits a .leaf (m.get? name))
    (hn : Fits a .leaf (n.get? name)) :
    Checked.field m name default check = Checked.field n name default check := by
  cases hm with
  | leaf hm =>
    cases hn with
    | leaf hn => rw [Checked.field, Checked.field, hm, hn]

theorem field_congr_of_group {a : Texts} {parts : List (String × Layout)} {m n : Mapping}
    {name : String} {α : Type} (default : α) (check : Value → Checked α)
    (hm : Fits a (.group parts) (m.get? name)) (hn : Fits a (.group parts) (n.get? name))
    (hcheck : ∀ m n : Mapping, SameParts a parts m n → check (.map m) = check (.map n)) :
    Checked.field m name default check = Checked.field n name default check := by
  have hsome := hm.isSome_iff.trans hn.isSome_iff.symm
  rw [Checked.field, Checked.field]
  generalize m.get? name = u at hm hsome
  generalize n.get? name = v at hn hsome
  cases hm with
  | absent _ =>
    cases hn with
    | absent _ => rfl
    | group _ _ _ => simp at hsome
  | group _ hm _ =>
    cases hn with
    | absent _ => simp at hsome
    | group _ hn _ =>
      have heq := hcheck _ _ fun name part hp => ⟨hm name part hp, hn name part hp⟩
      simp only [heq]

namespace SameParts

variable {a : Texts} {parts inner : List (String × Layout)} {m n : Mapping} {α : Type}

theorem field_leaf (h : SameParts a parts m n) (name : String)
    (hp : parts.lookup name = some .leaf) (default : α) (check : Value → Checked α) :
    Checked.field m name default check = Checked.field n name default check :=
  field_congr_of_leaf default check (h name .leaf hp).1 (h name .leaf hp).2

theorem field_optionalSection (h : SameParts a parts m n) (name : String)
    (hp : parts.lookup name = some (.group inner)) (title : String) {check : Mapping → Checked α}
    (hcheck : ∀ m n : Mapping, SameParts (a.under name) inner m n → check m = check n) :
    Checked.field m name none (checkOptionalSection title check) =
      Checked.field n name none (checkOptionalSection title check) := by
  obtain ⟨hm, hn⟩ := h name (.group inner) hp
  refine field_congr_of_group _ _ hm hn fun m n hmn => ?_
  simp only [checkOptionalSection, checkSection, hcheck m n hmn]

end SameParts

theorem checkProfile_congr {a : Texts} {m n : Mapping}
    (h : SameParts a Section.profileParts m n) : checkProfile m = checkProfile n := by
  rw [checkProfile, checkProfile, h.field_leaf "name" rfl, h.field_leaf "path" rfl]

theorem checkSts_congr {a : Texts} {m n : Mapping} (h : SameParts a Section.stsParts m n) :
    checkSts m = checkSts n := by
  rw [checkSts, checkSts, h.field_leaf "enabled" rfl, h.field_leaf "role_arn" rfl,
    h.field_leaf "web_identity_token_file" rfl, h.field_leaf "async_credentials_update" rfl,
    h.field_leaf "role_session_name" rfl]

theorem checkCredentials_congr {a : Texts} {m n : Mapping}
    (h : SameParts a Section.credentials.known m n) : checkCredentials m = checkCredentials n := by
  have hprofile := h.field_optionalSection "profile" rfl profileTitle fun _ _ => checkProfile_congr
  have hsts := h.field_optionalSection "sts" rfl stsTitle fun _ _ => checkSts_congr
  rw [checkCredentials, checkCredentials, h.field_leaf "access_key" rfl,
    h.field_leaf "secret_key" rfl, h.field_leaf "instance_profile" rfl, hprofile, hsts]

theorem checkRegion_congr {a : Texts} {m n : Mapping} (h : SameParts a Section.region.known m n) :
    checkRegion m = checkRegion n := by
  rw [checkRegion, checkRegion, h.field_leaf "static" rfl]

/-- The texts of the leaves decide the settings, and all problems that they have. -/
theorem checkSettings_congr {m n : Mapping} {a : Section → Texts} (hm : m.Gives a)
    (hn : n.Gives a) : checkSettings m = checkSettings n := by
  have hcredentials : Checked.field m "credentials" {}
        (checkGivenSection credentialsTitle checkCredentials) =
      Checked.field n "credentials" {} (checkGivenSection credentialsTitle checkCredentials) := by
    refine field_congr_of_group _ _ (hm.fits .credentials) (hn.fits .credentials) fun m n hmn => ?_
    simp only [checkGivenSection, checkSection, checkCredentials_congr hmn]
  have hregion : Checked.field m "region" {} (checkGivenSection regionTitle checkRegion) =
      Checked.field n "region" {} (checkGivenSection regionTitle checkRegion) := by
    refine field_congr_of_group _ _ (hm.fits .region) (hn.fits .region) fun m n hmn => ?_
    simp only [checkGivenSection, checkSection, checkRegion_congr hmn]
  rw [checkSettings, checkSettings, hcredentials, hregion]

/-! ### Loading -/

/-- The text of each leaf by precedence: the first of three sources that has one gives it. -/
def winner (a b c : Section → Texts) : Section → Texts :=
  fun s path => (a s path).or ((b s path).or (c s path))

/-- The variables of the variable file, as they are written. -/
def writtenVariables (w : World) : Except Failure Variables := do
  let bytes ← bytesOf w.files variableFileName
  let cs ← (Text.decodeUtf8 bytes).mapError Failure.encoding
  return Dotenv.read w.environment (Text.unifyLineEnds cs)

/-- The mapping that a config file holds. -/
def writtenMapping (path : Path) (w : World) : Except Failure Mapping :=
  match path.expandHome w.environment.home with
  | none => .error .noHome
  | some path => do mappingOf (← Yaml.read (← bytesOf w.files path.text))

/-- The environment, the variable file and the config file of a name each give texts to the leaves
of the settings. -/
structure World.Gives (w : World) (name : String) (a b c : Section → Texts) : Prop where
  isFile : w.files.isFile (Path.ofText name).text = true
  environment : Variables.Gives (w.environment.map fun v => (v.1, some v.2)) a
  variableFile : ∃ vars, writtenVariables w = .ok vars ∧ vars.Gives b
  configFile : ∃ m, writtenMapping (Path.ofText name) w = .ok m ∧ m.Gives c ∧
    ∀ e ∈ m, ∃ s : Section, e.1 = .text s.name

theorem fileVariables_eq (w : World) :
    fileVariables w = (writtenVariables w).map Variables.lowerNames := by
  rw [fileVariables, writtenVariables]
  cases bytesOf w.files variableFileName with
  | error _ => rfl
  | ok bytes =>
    dsimp only [bind, Except.bind]
    cases (Text.decodeUtf8 bytes).mapError Failure.encoding <;> rfl

theorem configFileSettings_eq (path : Path) (w : World) :
    configFileSettings path w = (writtenMapping path w).bind sectionsIn := by
  rw [configFileSettings, writtenMapping]
  cases path.expandHome w.environment.home with
  | none => rfl
  | some path =>
    dsimp only [bind, Except.bind]
    cases bytesOf w.files path.text with
    | error _ => rfl
    | ok bytes =>
      simp only [configSettings, bind, Except.bind]
      cases Yaml.read bytes <;> rfl

theorem exists_gatherSettings {w : World} {name : String} {a b c : Section → Texts}
    (h : w.Gives name a b c) :
    ∃ m, gatherSettings (some (Path.ofText name)) w = .ok m ∧ m.Gives (winner a b c) := by
  obtain ⟨vars, hvars, hb⟩ := h.variableFile
  obtain ⟨written, hwritten, hc, hkeys⟩ := h.configFile
  obtain ⟨highest, hhighest, ha⟩ := h.environment.exists_settings environmentOrigin
  obtain ⟨middle, hmiddle, hb⟩ := hb.exists_settings variableFileOrigin
  obtain ⟨lowest, hlowest, hc⟩ := exists_sectionsIn hc hkeys
  have hfile : fileVariables w = .ok vars.lowerNames := by
    rw [fileVariables_eq, hvars]
    rfl
  have hconfig : configFileSettings (Path.ofText name) w = .ok lowest := by
    rw [configFileSettings_eq, hwritten]
    exact hlowest
  refine ⟨mergeSources highest middle lowest, ?_, ?_⟩
  · rw [gatherSettings, hfile]
    dsimp only [bind, Except.bind]
    rw [hconfig, Variables.ofEnvironment, hhighest, hmiddle]
    rfl
  · have hover : (mergeSources highest middle lowest).Gives
        fun s => ((a s).orElse (b s)).orElse (c s) := (ha.layered hb).layered hc
    refine hover.congr fun s path _ => ?_
    rw [winner, Texts.orElse, Texts.orElse, Option.or_assoc]

theorem loadSettings_of_gives {w : World} {name : String} {a b c : Section → Texts}
    (h : w.Gives name a b c) :
    (loadSettings (some name) w).1 =
      (checkSettings (treeOf (winner a b c))).mapError (Failure.invalid fileSettingsTitle) := by
  have hw : (w.record .debug .settings
      ("Loading settings from " ++ (Path.ofText name).text)).Gives name a b c :=
    ⟨h.isFile, h.environment, h.variableFile, h.configFile⟩
  obtain ⟨m, hgather, hm⟩ := exists_gatherSettings hw
  simp only [loadSettings, h.isFile, if_true, settingsFrom, hgather]
  rw [← checkSettings_congr hm (treeOf_gives _)]
  rfl

/-- The settings are those of one tree, in which each leaf has the text of the environment, else of
the variable file, else of the config file. So no source hides the leaves that it does not give,
and texts can be given by other sources as long as the same text comes first at each leaf. -/
theorem loadSettings_leafwise {w : World} {name : String} {a b c : Section → Texts}
    (h : w.Gives name a b c) :
    (loadSettings (some name) w).1 =
        (checkSettings (treeOf (winner a b c))).mapError (Failure.invalid fileSettingsTitle) ∧
      (∀ s : Section, ∀ path ∈ s.leaves, (treeOf (winner a b c)).textAt? (s.name :: path) =
        (a s path).or ((b s path).or (c s path))) ∧
      ∀ (w' : World) (name' : String) (a' b' c' : Section → Texts), w'.Gives name' a' b' c' →
        (∀ s : Section, ∀ path ∈ s.leaves, winner a' b' c' s path = winner a b c s path) →
        (loadSettings (some name') w').1 = (loadSettings (some name) w).1 := by
  refine ⟨loadSettings_of_gives h, fun s path hpath => ?_, fun w' name' a' b' c' h' hsame => ?_⟩
  · exact (treeOf_gives _).textAt?_eq hpath
  · have htree : (treeOf (winner a' b' c')).Gives (winner a b c) := (treeOf_gives _).congr hsame
    rw [loadSettings_of_gives h, loadSettings_of_gives h',
      checkSettings_congr htree (treeOf_gives _)]

/-! ### Three sources of one section -/

def environmentTexts : Section → Texts
  | .credentials, ["access_key"] => some "A"
  | _, _ => none

def variableFileTexts : Section → Texts
  | .credentials, ["access_key"] => some "b"
  | .credentials, ["profile", "name"] => some "dev"
  | _, _ => none

def configFileTexts : Section → Texts
  | .credentials, ["access_key"] => some "b"
  | .credentials, ["secret_key"] => some "c"
  | _, _ => none

def keysVariableFile : String :=
  "AWS_AUTOCONFIG_CREDENTIALS__ACCESS_KEY=b\nAWS_AUTOCONFIG_CREDENTIALS__PROFILE__NAME=dev\n"

def keysConfigFile : String := "credentials:\n  access_key: b\n  secret_key: c\n"

/-- A world in which all three sources say something about the same section. -/
def keysWorld : World where
  environment := [("AWS_AUTOCONFIG_CREDENTIALS__ACCESS_KEY", "A")]
  files := [(["app.yaml"], .file (asciiBytes keysConfigFile)),
    ([".env"], .file (asciiBytes keysVariableFile))]

theorem readDocument_keysConfigFile :
    Yaml.readDocument keysConfigFile.toList = .ok (some (.mapping .mapping
      [(.scalar .text ("credentials".toList.map Char.toNat), .mapping .mapping
        [(.scalar .text ("access_key".toList.map Char.toNat), .scalar .text [98]),
          (.scalar .text ("secret_key".toList.map Char.toNat), .scalar .text [99])])])) := by
  cbv

theorem writtenMapping_keysWorld :
    writtenMapping (Path.ofText "app.yaml") keysWorld = .ok (treeOf configFileTexts) := by
  have hpath : (Path.ofText "app.yaml").expandHome keysWorld.environment.home =
      some (Path.ofText "app.yaml") := rfl
  have hbytes : bytesOf keysWorld.files (Path.ofText "app.yaml").text =
      .ok (asciiBytes keysConfigFile) := rfl
  have hchars : Yaml.readChars (asciiBytes keysConfigFile) = .ok keysConfigFile.toList := rfl
  have hread : Yaml.read (asciiBytes keysConfigFile) = .ok (.map (treeOf configFileTexts)) := by
    rw [Yaml.read, hchars]
    dsimp only [bind, Except.bind]
    rw [readDocument_keysConfigFile]
    rfl
  rw [writtenMapping, hpath]
  dsimp only
  rw [hbytes]
  dsimp only [bind, Except.bind]
  rw [hread]
  rfl

theorem keysWorld_gives :
    keysWorld.Gives "app.yaml" environmentTexts variableFileTexts configFileTexts := by
  have henvironment : (keysWorld.environment.map fun v => (v.1, some v.2)) =
      Variables.ofTexts environmentTexts := rfl
  have hfile : writtenVariables keysWorld = .ok (Variables.ofTexts variableFileTexts) := rfl
  refine ⟨rfl, ?_, ⟨_, hfile, Variables.gives_ofTexts _⟩,
    ⟨_, writtenMapping_keysWorld, treeOf_gives _, fun e he => ?_⟩⟩
  · rw [henvironment]
    exact Variables.gives_ofTexts _
  · obtain rfl := List.mem_singleton.mp he
    exact ⟨.credentials, rfl⟩

/-- All three sources give the access key, and each of the lower two another leaf. -/
theorem loadSettings_leafwise_keys :
    keysWorld.Gives "app.yaml" environmentTexts variableFileTexts configFileTexts ∧
      (loadSettings (some "app.yaml") keysWorld).1 =
        .ok ⟨⟨some "A", some "c", false, some ⟨some "dev", none⟩, none⟩, ⟨none⟩⟩ := by
  refine ⟨keysWorld_gives, ?_⟩
  rw [(loadSettings_leafwise keysWorld_gives).1]
  rfl

end CloudCredentials
