import CloudCredentials.Proofs.ExplicitFile

/-!
# Profiles in the default files

A profile provider without a path reads the default credentials file, and after it the default
config file. A file decides about a profile when it does not follow the grammar, or when its section
for the profile has an access key. The first file that decides settles the answer on its own: what
is handed out, and what is wrong, is read off its section, and the other file does not count.
-/

namespace CloudCredentials

namespace ProfileFile

/-! ### What a file says about a profile -/

/-- A profile file as it is found: it is not there, it does not follow the grammar, or it has
sections. -/
inductive Condition
  | missing
  | unparseable
  | parsed (sections : Sections)
  deriving DecidableEq, Repr

/-- The condition of the file of a name, after the references and the tilde in the name. -/
def conditionOf (w : World) (name : String) : Condition :=
  match w.files.content? (expandName w.environment name) with
  | none => .missing
  | some content =>
    match parse content with
    | none => .unparseable
    | some sections => .parsed sections

namespace Condition

/-- A config file by the profiles that its sections stand for. -/
def profiles : Condition → Condition
  | .parsed sections => .parsed (profilesOf sections)
  | c => c

/-- The file settles what becomes of a profile. -/
inductive Decides (profile : String) : Condition → Prop
  | unparseable : Decides profile .unparseable
  | accessKey {sections : Sections} {options : Section} {accessKey : Datum}
    (ho : sections.lookup profile = some options)
    (ha : options.lookup "aws_access_key_id" = some accessKey) :
    Decides profile (.parsed sections)

theorem decides_parsed_iff {profile : String} {sections : Sections} :
    Decides profile (.parsed sections) ↔
      ((sections.lookup profile).bind (·.lookup "aws_access_key_id")).isSome := by
  constructor
  · intro h
    cases h with
    | accessKey ho ha =>
      rw [ho, Option.bind_some, ha]
      rfl
  · intro h
    obtain ⟨accessKey, h⟩ := Option.isSome_iff_exists.mp h
    obtain ⟨options, ho, ha⟩ := Option.bind_eq_some_iff.mp h
    exact .accessKey ho ha

instance (profile : String) : DecidablePred (Decides profile)
  | .missing => .isFalse nofun
  | .unparseable => .isTrue .unparseable
  | .parsed _ => decidable_of_iff' _ decides_parsed_iff

/-- The keys of a profile in a file of that condition. -/
def keys (origin path profile : String) : Condition → Except Failure (Option Keys)
  | .missing => .ok none
  | .unparseable => .error (.profileFile path)
  | .parsed sections => keysIn origin profile (some sections)

end Condition

theorem readSections_condition (w : World) (name : String) : readSections w name =
    match conditionOf w name with
    | .missing => .ok none
    | .unparseable => .error (.profileFile (expandName w.environment name))
    | .parsed sections => .ok (some sections) := by
  unfold readSections conditionOf Files.content?
  dsimp only
  cases w.files.read (expandName w.environment name) with
  | error fault => rfl
  | ok content =>
    simp only [Except.toOption]
    cases parse content <;> rfl

theorem credentialsFileKeys_condition (w : World) (file profile : String) :
    credentialsFileKeys w file profile = (conditionOf w file).keys credentialsOrigin
      (expandName w.environment file) profile := by
  rw [credentialsFileKeys, readSections_condition]
  cases conditionOf w file <;> rfl

theorem configFileKeys_condition (w : World) (file profile : String) :
    configFileKeys w file profile = (conditionOf w file).profiles.keys configOrigin
      (expandName w.environment file) profile := by
  rw [configFileKeys, readSections_condition]
  cases conditionOf w file <;> rfl

/-- The token of a section: of its two options the older one counts first. -/
def tokenOf (options : Section) : Datum :=
  (options.lookup "aws_security_token" <|> options.lookup "aws_session_token").getD .absent

theorem keysOf_of_keys {options : Section} {accessKey secretKey : Datum} (origin : String)
    (ha : options.lookup "aws_access_key_id" = some accessKey)
    (hs : options.lookup "aws_secret_access_key" = some secretKey) :
    keysOf origin options = .ok (some ⟨accessKey, secretKey, tokenOf options⟩) := by
  unfold keysOf tokenOf
  rw [ha, hs]
  cases options.lookup "aws_security_token" <;> rfl

end ProfileFile

open ProfileFile

/-! ### The answer of the file that decides -/

/-- What a provider answers when a file of a condition decides about its profile: all that is handed
out stands in one section of this file, and there is no expiration. -/
inductive NamedProfile.Ruled (origin path profile : String) :
    Condition → Except Failure Credentials → Prop
  | unparseable :
    Ruled origin path profile .unparseable (.error (.loading name (.profileFile path)))
  | partialKeys {sections : ProfileFile.Sections} {options : ProfileFile.Section}
    {accessKey : Datum}
    (ho : sections.lookup profile = some options)
    (ha : options.lookup "aws_access_key_id" = some accessKey)
    (hs : options.lookup "aws_secret_access_key" = none) :
    Ruled origin path profile (.parsed sections)
      (.error (.loading name (.partialKeys origin "aws_secret_access_key")))
  | incomplete {sections : ProfileFile.Sections} {options : ProfileFile.Section}
    {accessKey secretKey : Datum}
    (ho : sections.lookup profile = some options)
    (ha : options.lookup "aws_access_key_id" = some accessKey)
    (hs : options.lookup "aws_secret_access_key" = some secretKey)
    (he : accessKey.isEmpty = true ∨ secretKey.isEmpty = true) :
    Ruled origin path profile (.parsed sections) (.error (.notFound name .incomplete))
  | keys {sections : ProfileFile.Sections} {options : ProfileFile.Section}
    {accessKey secretKey : Datum}
    (ho : sections.lookup profile = some options)
    (ha : options.lookup "aws_access_key_id" = some accessKey)
    (hs : options.lookup "aws_secret_access_key" = some secretKey)
    (hna : accessKey.isEmpty = false) (hns : secretKey.isEmpty = false) :
    Ruled origin path profile (.parsed sections)
      (.ok ⟨⟨accessKey, secretKey, tokenOf options⟩, none, some name⟩)

namespace NamedProfile

variable {c : Condition} {origin path profile : String}

theorem keys_of_not_decides (h : ¬ c.Decides profile) : c.keys origin path profile = .ok none := by
  cases c with
  | missing => rfl
  | unparseable => exact absurd .unparseable h
  | parsed sections =>
    dsimp only [Condition.keys, keysIn]
    cases ho : sections.lookup profile with
    | none => rfl
    | some options =>
      dsimp only
      cases ha : options.lookup "aws_access_key_id" with
      | none =>
        unfold keysOf
        rw [ha]
      | some accessKey => exact absurd (.accessKey ho ha) h

theorem answerTo_keys (accessKey secretKey token : Datum) :
    answerTo (.ok (some ⟨accessKey, secretKey, token⟩)) =
      if accessKey.isEmpty = true ∨ secretKey.isEmpty = true
        then .error (.notFound name .incomplete)
        else .ok ⟨⟨accessKey, secretKey, token⟩, none, some name⟩ := by
  unfold answerTo
  by_cases hna : accessKey.isEmpty = true <;> by_cases hns : secretKey.isEmpty = true <;>
    simp [Backed.credentials, Keys.isComplete, hna, hns]

/-- A file that decides does not leave the profile to others, and rules the answer. -/
theorem keys_of_decides (origin path : String) (h : c.Decides profile) :
    c.keys origin path profile ≠ .ok none ∧
      Ruled origin path profile c (answerTo (c.keys origin path profile)) := by
  cases h with
  | unparseable => exact ⟨nofun, .unparseable⟩
  | @accessKey sections options accessKey ho ha =>
    simp only [Condition.keys, keysIn, ho]
    cases hs : options.lookup "aws_secret_access_key" with
    | none =>
      have hk : keysOf origin options =
          .error (.partialKeys origin "aws_secret_access_key") := by
        unfold keysOf
        rw [ha, hs]
      rw [hk]
      exact ⟨nofun, .partialKeys ho ha hs⟩
    | some secretKey =>
      rw [keysOf_of_keys origin ha hs]
      refine ⟨nofun, ?_⟩
      rw [answerTo_keys]
      by_cases hna : accessKey.isEmpty = true
      · rw [if_pos (.inl hna)]
        exact .incomplete ho ha hs (.inl hna)
      by_cases hns : secretKey.isEmpty = true
      · rw [if_pos (.inr hns)]
        exact .incomplete ho ha hs (.inr hns)
      rw [if_neg (not_or.2 ⟨hna, hns⟩)]
      exact .keys ho ha hs (Bool.eq_false_iff.2 hna) (Bool.eq_false_iff.2 hns)

/-! ### Both files -/

variable (p : NamedProfile) {w : World} {credentialsFile configFile : Path}

/-- The first file whose keys are not simply absent is the one that the provider answers with. -/
theorem ask_default (h : p.path = none)
    (hc : w.environment.defaultCredentialsFile = some credentialsFile)
    (hg : w.environment.defaultConfigFile = some configFile) :
    (Source.ask (.profile ⟨p, none⟩) w).1 = answerTo
      (match credentialsFileKeys w credentialsFile.text p.profile with
      | .ok none => configFileKeys w configFile.text p.profile
      | found => found) := by
  have henvironment : (Backed.looking p.shown w).environment = w.environment := rfl
  have hfiles : (Backed.looking p.shown w).files = w.files := rfl
  have hcredentials :
      credentialsFileKeys (Backed.looking p.shown w) credentialsFile.text p.profile =
        credentialsFileKeys w credentialsFile.text p.profile := credentialsFileKeys_looking p.shown
  have hconfig : configFileKeys (Backed.looking p.shown w) configFile.text p.profile =
      configFileKeys w configFile.text p.profile := by
    unfold configFileKeys readSections
    rw [henvironment, hfiles]
  rw [ask_fresh, load, h]
  dsimp only [loadDefault]
  rw [henvironment, hc, hg]
  dsimp only
  rw [hcredentials, hconfig]
  rcases credentialsFileKeys w credentialsFile.text p.profile with failure | _ | keys
  · rfl
  · rcases configFileKeys w configFile.text p.profile with failure | _ | keys
    · rfl
    · rfl
    · rfl
  · rfl

theorem ask_credentialsFile (h : p.path = none)
    (hc : w.environment.defaultCredentialsFile = some credentialsFile)
    (hg : w.environment.defaultConfigFile = some configFile)
    (hd : (conditionOf w credentialsFile.text).Decides p.profile) :
    (Source.ask (.profile ⟨p, none⟩) w).1 =
      answerTo ((conditionOf w credentialsFile.text).keys credentialsOrigin
        (expandName w.environment credentialsFile.text) p.profile) := by
  have hkeys := (keys_of_decides credentialsOrigin
    (expandName w.environment credentialsFile.text) hd).1
  rw [ask_default p h hc hg, credentialsFileKeys_condition]
  split
  · rename_i hnone
    exact absurd hnone hkeys
  · rfl

theorem ask_configFile (h : p.path = none)
    (hc : w.environment.defaultCredentialsFile = some credentialsFile)
    (hg : w.environment.defaultConfigFile = some configFile)
    (hd : ¬ (conditionOf w credentialsFile.text).Decides p.profile) :
    (Source.ask (.profile ⟨p, none⟩) w).1 =
      answerTo ((conditionOf w configFile.text).profiles.keys configOrigin
        (expandName w.environment configFile.text) p.profile) := by
  rw [ask_default p h hc hg, credentialsFileKeys_condition, keys_of_not_decides hd,
    configFileKeys_condition]

end NamedProfile

/-- A new profile provider without a path answers with what the credentials file makes of its
profile when that file decides, whatever the config file holds; else with what the config file
makes of it when that one decides; else it has found nothing. -/
theorem Source.ofProfile_ruled {home : Option String} {profile : String} (hp : profile ≠ "")
    {w : World} {credentialsFile configFile : Path}
    (hc : w.environment.defaultCredentialsFile = some credentialsFile)
    (hg : w.environment.defaultConfigFile = some configFile) :
    ∃ s, Source.ofProfile home profile none = .ok s ∧
      ((conditionOf w credentialsFile.text).Decides profile →
        NamedProfile.Ruled credentialsOrigin (expandName w.environment credentialsFile.text)
          profile (conditionOf w credentialsFile.text) (s.ask w).1 ∧
        ∀ v : World, v.environment = w.environment →
          conditionOf v credentialsFile.text = conditionOf w credentialsFile.text →
            (s.ask v).1 = (s.ask w).1) ∧
      (¬ (conditionOf w credentialsFile.text).Decides profile →
        ((conditionOf w configFile.text).profiles.Decides profile →
          NamedProfile.Ruled configOrigin (expandName w.environment configFile.text) profile
            (conditionOf w configFile.text).profiles (s.ask w).1) ∧
        (¬ (conditionOf w configFile.text).profiles.Decides profile →
          (s.ask w).1 = .error (.notFound NamedProfile.name .nothing))) := by
  have hmade : Source.ofProfile home profile none = .ok (.profile ⟨⟨profile, none⟩, none⟩) := by
    unfold ofProfile NamedProfile.make
    rw [if_neg hp]
    rfl
  refine ⟨_, hmade, fun hd => ⟨?_, fun v he hv => ?_⟩, fun hd => ⟨fun hf => ?_, fun hf => ?_⟩⟩
  · rw [NamedProfile.ask_credentialsFile ⟨profile, none⟩ rfl hc hg hd]
    exact (NamedProfile.keys_of_decides _ _ hd).2
  · have hd' : (conditionOf v credentialsFile.text).Decides profile := by rwa [hv]
    have hc' : v.environment.defaultCredentialsFile = some credentialsFile := by rw [he, hc]
    have hg' : v.environment.defaultConfigFile = some configFile := by rw [he, hg]
    rw [NamedProfile.ask_credentialsFile ⟨profile, none⟩ rfl hc' hg' hd',
      NamedProfile.ask_credentialsFile ⟨profile, none⟩ rfl hc hg hd, hv, he]
  · rw [NamedProfile.ask_configFile ⟨profile, none⟩ rfl hc hg hd]
    exact (NamedProfile.keys_of_decides _ _ hf).2
  · rw [NamedProfile.ask_configFile ⟨profile, none⟩ rfl hc hg hd,
      NamedProfile.keys_of_not_decides hf]
    rfl

/-- A profile that has its region in the credentials file and its keys in the config file. -/
def sharedWorld : World where
  environment := [("HOME", "/home/dev"), ("AWS_SHARED_CREDENTIALS_FILE", "creds"),
    ("AWS_CONFIG_FILE", "config")]
  files := [(["creds"], .file (asciiBytes "[dev]\nregion = eu-west-1")),
    (["config"], .file (asciiBytes ("[profile dev]\naws_access_key_id = AKIADEV\n" ++
      "aws_secret_access_key = dev-secret")))]

theorem Source.ofProfile_ruled_sharedWorld :
    ("dev" ≠ "" ∧ sharedWorld.environment.defaultCredentialsFile = some (Path.ofText "creds") ∧
        sharedWorld.environment.defaultConfigFile = some (Path.ofText "config") ∧
        ¬ (conditionOf sharedWorld "creds").Decides "dev" ∧
        (conditionOf sharedWorld "config").profiles.Decides "dev") ∧
      ∃ s, Source.ofProfile none "dev" none = .ok s ∧
        NamedProfile.Ruled configOrigin "config" "dev"
          (.parsed [("dev", [("aws_access_key_id", .text "AKIADEV"),
            ("aws_secret_access_key", .text "dev-secret")])])
          (s.ask sharedWorld).1 := by
  have hp : "dev" ≠ "" := by decide
  have hc : sharedWorld.environment.defaultCredentialsFile = some (Path.ofText "creds") := rfl
  have hg : sharedWorld.environment.defaultConfigFile = some (Path.ofText "config") := rfl
  have hd : ¬ (conditionOf sharedWorld "creds").Decides "dev" := by decide
  have hf : (conditionOf sharedWorld "config").profiles.Decides "dev" := by decide
  obtain ⟨s, hs, -, hsecond⟩ := Source.ofProfile_ruled hp hc hg
  exact ⟨⟨hp, hc, hg, hd, hf⟩, s, hs, (hsecond hd).1 hf⟩

end CloudCredentials
