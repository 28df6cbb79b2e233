import CloudCredentials.ClientPlan
import CloudCredentials.Proofs.Likeness
import CloudCredentials.Provider.InstanceProfile
import CloudCredentials.Region

/-!
# What alike worlds show

Services answer alike in alike worlds, profile files have alike sections, and regions and clients
are the same. All of it leaves the worlds alike, with the same calls and the same records.
-/

namespace CloudCredentials

variable (L : Likeness)

/-! ### Profile files -/

namespace ProfileFile

/-- The names of the options that are secrets. -/
def secretNames : List String :=
  ["aws_secret_access_key", "aws_session_token", "aws_security_token"]

/-- The option that names a file with a token. -/
def tokenFileName : String := "web_identity_token_file"

/-- Values of an option that are alike: secrets under the names of secrets, and else the same. A
file that is named as a token file is open. -/
def OptionAlike (name : String) (d d' : Datum) : Prop :=
  L.Field secretNames name d d' ∧ (name = tokenFileName → L.isOpen d.plain)

def SectionAlike : Section → Section → Prop := Fields (OptionAlike L)

def SectionsAlike : Sections → Sections → Prop := Fields fun _ => SectionAlike L

end ProfileFile

/-- The same files can be read. Open ones have the same content; the others have alike sections
when they are read as profile files. -/
structure Files.Alike (f f' : Files) : Prop where
  isOpen : ∀ {name}, L.isOpen name → f.read name = f'.read name
  read : ∀ name, Both (fun content content' =>
    Option.Rel (ProfileFile.SectionsAlike L) (ProfileFile.parse content)
      (ProfileFile.parse content')) (f.read name) (f'.read name)

inductive Entry.Alike : Entry → Entry → Prop
  | directory : Entry.Alike .directory .directory
  | file {content content' : List UInt8} (h : Option.Rel (ProfileFile.SectionsAlike L)
    (ProfileFile.parse content) (ProfileFile.parse content')) :
    Entry.Alike (.file content) (.file content')

inductive Files.Found.Alike : Files.Found → Files.Found → Prop
  | entry {e e' : Entry} (h : e.Alike L e') : Files.Found.Alike (.entry e) (.entry e')
  | missing : Files.Found.Alike .missing .missing
  | notDirectory : Files.Found.Alike .notDirectory .notDirectory

namespace Files

variable {L} {f f' : Files} (h : Fields (fun _ => Entry.Alike L) f f')

include h

theorem at?_alike (place : Place) : Option.Rel (Entry.Alike L) (at? f place) (at? f' place) := by
  cases place with
  | outside => exact .some .directory
  | inside names =>
    dsimp only [at?, entryAt]
    split
    · exact .some .directory
    · exact h.lookup names

theorem walk_alike (names : List String) (place : Place) :
    Found.Alike L (walk f place names) (walk f' place names) := by
  induction names generalizing place with
  | nil =>
    have hp := at?_alike h place
    unfold walk
    generalize at? f place = e at hp
    generalize at? f' place = e' at hp
    cases hp with
    | none => exact .missing
    | some he => exact .entry he
  | cons name rest ih =>
    have hp := at?_alike h place
    unfold walk
    generalize at? f place = e at hp
    generalize at? f' place = e' at hp
    cases hp with
    | none => exact .missing
    | some he =>
      cases he with
      | file _ => exact .notDirectory
      | directory =>
        cases place with
        | inside names => exact ih _
        | outside =>
          dsimp only
          split
          · exact ih _
          · exact .missing

theorem find_alike (text : String) : Found.Alike L (find f text) (find f' text) := by
  unfold find
  split
  · exact .missing
  · dsimp only
    have hw := walk_alike h (Path.ofText text).names
      (.inside (if (Path.ofText text).root = .none then [] else [rootName]))
    generalize walk f _ (Path.ofText text).names = r at hw
    generalize walk f' _ (Path.ofText text).names = r' at hw
    cases hw with
    | missing => exact .missing
    | notDirectory => exact .notDirectory
    | entry he =>
      cases he with
      | directory => exact .entry .directory
      | file hc =>
        dsimp only
        split
        · exact .notDirectory
        · exact .entry (.file hc)

/-- Trees of files with alike contents are alike when the open ones are the same. -/
theorem Alike.of_entries (ho : ∀ {name}, L.isOpen name → f.read name = f'.read name) :
    f.Alike L f' := by
  refine ⟨ho, fun name => ?_⟩
  have hf := find_alike h name
  unfold Files.read
  generalize find f name = r at hf
  generalize find f' name = r' at hf
  cases hf with
  | missing | notDirectory => exact .error _
  | entry he =>
    cases he with
    | directory => exact .error _
    | file hc => exact .ok hc

end Files

/-! ### Worlds -/

/-- Two worlds agree in everything but secrets, and have made the same calls and written the same
records since they were `u` and `u'`. A file that is named as a token file is open. -/
structure World.Alike (u u' w w' : World) : Prop where
  environment : w.environment = w'.environment
  tokenFile : ∀ {file}, w.environment.get? "AWS_WEB_IDENTITY_TOKEN_FILE" = some file →
    L.isOpen file
  files : w.files.Alike L w'.files
  clock : w.clock = w'.clock
  metadata : List.Forall₂ (Both (MetadataAnswer.Alike L)) w.metadata w'.metadata
  roles : List.Forall₂ (Both (RoleAnswer.Alike L)) w.roles w'.roles
  identity : w.identity = w'.identity
  looks : List.Forall₂ (Look.Alike L) w.looks w'.looks
  renewals : List.Forall₂ (Both (Delivery.Alike L)) w.renewals w'.renewals
  clients : w.clients = w'.clients
  webIdentity : w.webIdentity = w'.webIdentity
  calls : ∃ made, w.calls = u.calls ++ made ∧ w'.calls = u'.calls ++ made
  log : ∃ written, w.log = u.log ++ written ∧ w'.log = u'.log ++ written

variable {L} {u u' w w' : World}

namespace World.Alike

/-- The comparison can start anew at any moment. -/
theorem restart (h : World.Alike L u u' w w') : World.Alike L w w' w w' :=
  { h with
    calls := ⟨[], (List.append_nil _).symm, (List.append_nil _).symm⟩
    log := ⟨[], (List.append_nil _).symm, (List.append_nil _).symm⟩ }

theorem call (h : World.Alike L u u' w w') (c : Call) :
    World.Alike L u u' (w.call c) (w'.call c) := by
  obtain ⟨made, hm, hm'⟩ := h.calls
  refine { h with calls := ⟨made ++ [c], ?_, ?_⟩ }
  · rw [calls_call, hm, List.append_assoc]
  · rw [calls_call, hm', List.append_assoc]

theorem record (h : World.Alike L u u' w w') (level : Level) (channel : Channel) (text : String) :
    World.Alike L u u' (w.record level channel text) (w'.record level channel text) := by
  obtain ⟨written, hw, hw'⟩ := h.log
  refine { h with log := ⟨written ++ [⟨level, channel, text⟩], ?_, ?_⟩ }
  · rw [log_record, hw, List.append_assoc]
  · rw [log_record, hw', List.append_assoc]

theorem valueOf (h : World.Alike L u u' w w') (name : String) :
    w.valueOf name = w'.valueOf name := by
  rw [World.valueOf, World.valueOf, h.environment]

theorem isFile (h : World.Alike L u u' w w') (name : String) :
    w.files.isFile name = w'.files.isFile name := by
  have hr := h.files.read name
  rw [Bool.eq_iff_iff, Files.isFile_iff_read_ok, Files.isFile_iff_read_ok]
  generalize w.files.read name = r at hr
  generalize w'.files.read name = r' at hr
  cases hr <;> simp

end World.Alike

/-! ### Profiles -/

namespace ProfileFile

variable {o o' : Section} {sections sections' : Sections} {name : String}

theorem SectionAlike.fields (h : SectionAlike L o o') : Fields (L.Field secretNames) o o' :=
  List.Forall₂.imp (fun _ _ he => ⟨he.1, he.2.1⟩) h

theorem SectionAlike.lookup_eq (h : SectionAlike L o o') (hn : name ∉ secretNames) :
    o.lookup name = o'.lookup name :=
  h.fields.lookup_eq hn

theorem SectionAlike.lookup_secret (h : SectionAlike L o o') (hn : name ∈ secretNames) :
    Option.Rel L.secret (o.lookup name) (o'.lookup name) :=
  h.fields.lookup_secret hn

theorem SectionAlike.isOpen (h : SectionAlike L o o') {d : Datum}
    (hd : o.lookup tokenFileName = some d) : L.isOpen d.plain := by
  have hl := Fields.lookup h tokenFileName
  rw [hd] at hl
  generalize o'.lookup tokenFileName = found at hl
  cases hl with
  | some hd => exact hd.2 rfl

theorem putEntry_alike {α : Type} {R : String → α → α → Prop} {m m' : List (String × α)}
    {a b : α} (h : Fields R m m') (hab : R name a b) :
    Fields R (putEntry m name a) (putEntry m' name b) := by
  have hnames : m.any (·.1 = name) = m'.any (·.1 = name) := by
    induction h with
    | nil => rfl
    | cons he _ ih => simp only [List.any_cons, he.1, ih]
  unfold putEntry
  rw [hnames]
  split
  · refine List.rel_map ?_ h
    intro e e' he
    by_cases hn : e.1 = name
    · have hn' : e'.1 = name := he.1 ▸ hn
      simpa [hn, hn'] using hab
    · have hn' : e'.1 ≠ name := he.1 ▸ hn
      simpa [hn, hn'] using he
  · exact List.rel_append h (.cons ⟨rfl, hab⟩ .nil)

theorem profilesOf_alike (h : SectionsAlike L sections sections') :
    SectionsAlike L (profilesOf sections) (profilesOf sections') := by
  refine List.rel_foldl ?_ .nil h
  intro found found' hf e e' he
  dsimp only
  rw [he.1]
  cases profileName? e'.1 with
  | none => exact hf
  | some profile => exact putEntry_alike hf he.2

theorem addOptions_alike {added added' : Section} (h : SectionAlike L o o')
    (ha : SectionAlike L added added') :
    SectionAlike L (addOptions o added) (addOptions o' added') := by
  refine List.rel_foldl ?_ h ha
  intro found found' hf e e' he
  dsimp only
  rw [← he.1]
  exact putEntry_alike hf he.2

theorem addSections_alike {profiles profiles' : Sections} (h : SectionsAlike L profiles profiles')
    (hs : SectionsAlike L sections sections') :
    SectionsAlike L (addSections profiles sections) (addSections profiles' sections') := by
  refine List.rel_foldl ?_ h hs
  intro found found' hf e e' he
  have hl := Fields.lookup hf e.1
  dsimp only
  rw [← he.1]
  generalize found.lookup e.1 = base at hl
  generalize found'.lookup e.1 = base' at hl
  cases hl with
  | none => exact putEntry_alike hf he.2
  | some hb => exact putEntry_alike hf (addOptions_alike hb he.2)

theorem keysOf_alike (origin : String) (h : SectionAlike L o o') :
    Both (Option.Rel (Keys.Alike L)) (keysOf origin o) (keysOf origin o') := by
  have ha : o.lookup "aws_access_key_id" = o'.lookup "aws_access_key_id" :=
    h.lookup_eq (by decide)
  have hs : Option.Rel L.secret (o.lookup "aws_secret_access_key")
      (o'.lookup "aws_secret_access_key") := h.lookup_secret (by decide)
  have ht : Option.Rel L.secret (o.lookup "aws_security_token")
      (o'.lookup "aws_security_token") := h.lookup_secret (by decide)
  have ht' : Option.Rel L.secret (o.lookup "aws_session_token")
      (o'.lookup "aws_session_token") := h.lookup_secret (by decide)
  unfold keysOf
  rw [ha]
  cases o'.lookup "aws_access_key_id" with
  | none => exact .ok .none
  | some accessKey =>
    dsimp only
    generalize o.lookup "aws_secret_access_key" = secret at hs
    generalize o'.lookup "aws_secret_access_key" = secret' at hs
    cases hs with
    | none => exact .error _
    | some hs =>
      refine .ok (.some ⟨rfl, hs, ?_⟩)
      generalize o.lookup "aws_security_token" = token at ht
      generalize o'.lookup "aws_security_token" = token' at ht
      cases ht with
      | none => exact rel_getD ht' (L.refl _)
      | some ht => exact ht

theorem keysIn_alike (origin profile : String) {found found' : Option Sections}
    (h : Option.Rel (SectionsAlike L) found found') :
    Both (Option.Rel (Keys.Alike L)) (keysIn origin profile found)
      (keysIn origin profile found') := by
  cases h with
  | none => exact .ok .none
  | @some sections sections' hs =>
    have hl := Fields.lookup hs profile
    dsimp only [keysIn]
    generalize sections.lookup profile = o at hl
    generalize sections'.lookup profile = o' at hl
    cases hl with
    | none => exact .ok .none
    | some ho => exact keysOf_alike origin ho

variable (h : World.Alike L u u' w w')

include h

theorem readSections_alike (name : String) :
    Both (Option.Rel (SectionsAlike L)) (readSections w name) (readSections w' name) := by
  dsimp only [readSections]
  rw [h.environment]
  have hr := h.files.read (expandName w'.environment name)
  generalize w.files.read (expandName w'.environment name) = r at hr
  generalize w'.files.read (expandName w'.environment name) = r' at hr
  cases hr with
  | error fault => exact .ok .none
  | @ok content content' hp =>
    dsimp only
    generalize parse content = parsed at hp
    generalize parse content' = parsed' at hp
    cases hp with
    | none => exact .error _
    | some hs => exact .ok (.some hs)

theorem credentialsFileKeys_alike (file profile : String) :
    Both (Option.Rel (Keys.Alike L)) (credentialsFileKeys w file profile)
      (credentialsFileKeys w' file profile) :=
  (readSections_alike h file).bind fun hs => keysIn_alike credentialsOrigin profile hs

theorem configFileKeys_alike (file profile : String) :
    Both (Option.Rel (Keys.Alike L)) (configFileKeys w file profile)
      (configFileKeys w' file profile) :=
  (readSections_alike h file).bind fun hs =>
    keysIn_alike configOrigin profile (rel_map hs profilesOf_alike)

end ProfileFile

/-! ### The active profile -/

/-- Views of the profile files that ask for the same profile and have found alike ones. -/
structure ActiveProfile.Alike (L : Likeness) (a a' : ActiveProfile) : Prop where
  name : a.name = a'.name
  known : Option.Rel (ProfileFile.SectionsAlike L) a.known a'.known

namespace ActiveProfile

variable {a a' : ActiveProfile}

theorem Alike.start (name : Option String) : Alike L { name } { name } := ⟨rfl, .none⟩

theorem Alike.active? (ha : a.Alike L a') (h : World.Alike L u u' w w') :
    a.active? w = a'.active? w' := by
  simp only [ActiveProfile.active?, ha.name, h.valueOf]

theorem profiles_alike (ha : a.Alike L a') (h : World.Alike L u u' w w') :
    Both (ProfileFile.SectionsAlike L) (a.profiles w).1 (a'.profiles w').1 ∧
      (a.profiles w).2.Alike L (a'.profiles w').2 := by
  have hconfig := ProfileFile.readSections_alike h (configFile w')
  have hcredentials := ProfileFile.readSections_alike h (credentialsFile w')
  have hconfigFile : configFile w = configFile w' := by simp only [configFile, h.valueOf]
  have hcredentialsFile : credentialsFile w = credentialsFile w' := by
    simp only [credentialsFile, h.valueOf]
  obtain ⟨name, known⟩ := a
  obtain ⟨name', known'⟩ := a'
  obtain ⟨hn, hk⟩ := ha
  unfold profiles
  dsimp only at hn hk ⊢
  rw [hconfigFile, hcredentialsFile]
  cases hk with
  | some hk => exact ⟨.ok hk, hn, .some hk⟩
  | none =>
    dsimp only
    generalize ProfileFile.readSections w (configFile w') = config at hconfig
    generalize ProfileFile.readSections w' (configFile w') = config' at hconfig
    cases hconfig with
    | error failure => exact ⟨.error _, hn, .none⟩
    | @ok config config' hconfig =>
      have hfound : ProfileFile.SectionsAlike L ((config.map ProfileFile.profilesOf).getD [])
          ((config'.map ProfileFile.profilesOf).getD []) :=
        rel_getD (rel_map hconfig ProfileFile.profilesOf_alike) .nil
      dsimp only
      generalize ProfileFile.readSections w (credentialsFile w') = file at hcredentials
      generalize ProfileFile.readSections w' (credentialsFile w') = file' at hcredentials
      cases hcredentials with
      | error failure => exact ⟨.error _, hn, .some hfound⟩
      | ok hcredentials =>
        have hall := ProfileFile.addSections_alike hfound (rel_getD hcredentials .nil)
        exact ⟨.ok hall, hn, .some hall⟩

theorem options_alike (ha : a.Alike L a') (h : World.Alike L u u' w w') :
    Both (ProfileFile.SectionAlike L) (a.options w).1 (a'.options w').1 ∧
      (a.options w).2.Alike L (a'.options w').2 := by
  obtain ⟨hp, hp'⟩ := profiles_alike ha h
  unfold options
  generalize a.profiles w = r at hp hp'
  generalize a'.profiles w' = r' at hp hp'
  obtain ⟨found, v⟩ := r
  obtain ⟨found', v'⟩ := r'
  dsimp only at hp' ⊢
  cases hp with
  | error failure => exact ⟨.error _, hp'⟩
  | @ok profiles profiles' hp =>
    dsimp only
    rw [hp'.active? h]
    cases v'.active? w' with
    | none => exact ⟨.ok (rel_getD (Fields.lookup hp "default") .nil), hp'⟩
    | some name =>
      have hl := Fields.lookup hp name
      dsimp only
      generalize profiles.lookup name = o at hl
      generalize profiles'.lookup name = o' at hl
      cases hl with
      | none => exact ⟨.error _, hp'⟩
      | some ho => exact ⟨.ok ho, hp'⟩

theorem region_alike (ha : a.Alike L a') (h : World.Alike L u u' w w') :
    (a.region w).1 = (a'.region w').1 ∧ (a.region w).2.Alike L (a'.region w').2 := by
  obtain ⟨ho, ho'⟩ := options_alike ha h
  unfold region
  rw [h.valueOf]
  cases w'.valueOf "AWS_DEFAULT_REGION" with
  | some region => exact ⟨rfl, ha⟩
  | none =>
    dsimp only
    generalize a.options w = r at ho ho'
    generalize a'.options w' = r' at ho ho'
    obtain ⟨found, v⟩ := r
    obtain ⟨found', v'⟩ := r'
    cases ho with
    | error failure => exact ⟨rfl, ho'⟩
    | @ok options options' ho =>
      have hr : options.lookup "region" = options'.lookup "region" := ho.lookup_eq (by decide)
      dsimp only
      rw [hr]
      exact ⟨rfl, ho'⟩

end ActiveProfile

/-! ### Regions and clients -/

/-- The settings of a client hold no secrets. -/
theorem ClientSettings.ofProfile_alike {o o' : ProfileFile.Section} (env : Environment)
    (h : ProfileFile.SectionAlike L o o') :
    ClientSettings.ofProfile o env = ClientSettings.ofProfile o' env := by
  have hoptions : o.filter (!keyOptions.contains ·.1) = o'.filter (!keyOptions.contains ·.1) := by
    induction h with
    | nil => rfl
    | @cons e e' rest rest' he _ ih =>
      obtain ⟨name, d⟩ := e
      obtain ⟨name', d'⟩ := e'
      obtain ⟨rfl, hd, _⟩ : name = name' ∧ ProfileFile.OptionAlike L name d d' := he
      rw [List.filter_cons, List.filter_cons, ih]
      by_cases hn : name ∈ ProfileFile.secretNames
      · have hkey : keyOptions.contains name = true := by
          have hall : ∀ n ∈ ProfileFile.secretNames, keyOptions.contains n = true := by decide
          exact hall name hn
        simp only [hkey, Bool.not_true, Bool.false_eq_true, if_false]
      · rw [hd.eq hn]
  rw [ofProfile, hoptions, ofProfile]

section Clients

variable {a a' : ActiveProfile}

theorem ActiveProfile.opened_alike (ha : a.Alike L a') (h : World.Alike L u u' w w') :
    (a.opened w).1 = (a'.opened w').1 ∧ (a.opened w).2.Alike L (a'.opened w').2 := by
  obtain ⟨ho, ho'⟩ := options_alike ha h
  unfold opened
  rw [h.valueOf, h.clients, h.environment]
  cases w'.valueOf "AWS_DATA_PATH" with
  | some _ => exact ⟨rfl, ha⟩
  | none =>
    dsimp only
    generalize a.options w = r at ho ho'
    generalize a'.options w' = r' at ho ho'
    obtain ⟨options, v⟩ := r
    obtain ⟨options', v'⟩ := r'
    cases ho with
    | error failure => exact ⟨rfl, ho'⟩
    | ok ho =>
      dsimp only
      rw [ClientSettings.ofProfile_alike w'.environment ho]
      split
      · exact ⟨rfl, ho'⟩
      · exact ⟨rfl, ho'⟩

theorem checkedRegion_alike (region : Option String) (ha : a.Alike L a')
    (h : World.Alike L u u' w w') :
    (checkedRegion a region w).1 = (checkedRegion a' region w').1 ∧
      (checkedRegion a region w).2.Alike L (checkedRegion a' region w').2 := by
  unfold checkedRegion
  cases region with
  | some region => exact ⟨rfl, ha⟩
  | none =>
    obtain ⟨hr, hr'⟩ := ActiveProfile.region_alike ha h
    dsimp only
    generalize a.region w = r at hr hr'
    generalize a'.region w' = r' at hr hr'
    obtain ⟨found, v⟩ := r
    obtain ⟨found', v'⟩ := r'
    dsimp only at hr
    subst hr
    cases found with
    | error failure => exact ⟨rfl, hr'⟩
    | ok found => exact ⟨rfl, hr'⟩

theorem clientPlan_alike (region : Option String) (ha : a.Alike L a')
    (h : World.Alike L u u' w w') :
    (clientPlan a region w).1 = (clientPlan a' region w').1 ∧
      (clientPlan a region w).2.Alike L (clientPlan a' region w').2 := by
  obtain ⟨hr, hr'⟩ := checkedRegion_alike region ha h
  unfold clientPlan
  generalize checkedRegion a region w = r at hr hr'
  generalize checkedRegion a' region w' = r' at hr hr'
  obtain ⟨found, v⟩ := r
  obtain ⟨found', v'⟩ := r'
  dsimp only at hr hr'
  subst hr
  cases found with
  | error failure => exact ⟨rfl, hr'⟩
  | ok found =>
    obtain ⟨ho, ho'⟩ := ActiveProfile.options_alike hr' h
    dsimp only
    rw [h.clients, h.environment]
    generalize v.options w = r at ho ho'
    generalize v'.options w' = r' at ho ho'
    obtain ⟨options, z⟩ := r
    obtain ⟨options', z'⟩ := r'
    cases ho with
    | error failure => exact ⟨rfl, ho'⟩
    | ok ho =>
      dsimp only
      rw [ClientSettings.ofProfile_alike w'.environment ho]
      split
      · exact ⟨rfl, ho'⟩
      · exact ⟨rfl, ho'⟩

theorem ClientPlan.endpoint_alike (plan : ClientPlan) (h : World.Alike L u u' w w') :
    plan.endpoint w = plan.endpoint w' := by
  rw [endpoint, h.clients, endpoint]

theorem unsignedClient_alike (region : Option String) (ha : a.Alike L a')
    (h : World.Alike L u u' w w') :
    (unsignedClient a region w).1 = (unsignedClient a' region w').1 ∧
      (unsignedClient a region w).2.Alike L (unsignedClient a' region w').2 := by
  obtain ⟨hp, ha'⟩ := clientPlan_alike region ha h
  unfold unsignedClient
  generalize clientPlan a region w = r at hp ha'
  generalize clientPlan a' region w' = r' at hp ha'
  obtain ⟨plan, v⟩ := r
  obtain ⟨plan', v'⟩ := r'
  dsimp only at hp
  subst hp
  cases plan with
  | error failure => exact ⟨rfl, ha'⟩
  | ok plan =>
    dsimp only
    rw [plan.endpoint_alike h]
    exact ⟨rfl, ha'⟩

theorem freshClient_alike (region : Option String) (h : World.Alike L u u' w w') :
    freshClient region w = freshClient region w' := by
  obtain ⟨ho, ho'⟩ := ActiveProfile.opened_alike (.start none) h
  unfold freshClient
  generalize ActiveProfile.opened {} w = r at ho ho'
  generalize ActiveProfile.opened {} w' = r' at ho ho'
  obtain ⟨opened, v⟩ := r
  obtain ⟨opened', v'⟩ := r'
  dsimp only at ho
  subst ho
  cases opened with
  | error failure => rfl
  | ok opened => exact (unsignedClient_alike region ho' h).1

end Clients

namespace RegionProvider

theorem find_alike (profile : Option String) (h : World.Alike L u u' w w') :
    find profile w = find profile w' := by
  unfold find
  rw [h.environment, (ActiveProfile.region_alike (.start profile) h).1]

theorem get_alike (r : RegionProvider) (h : World.Alike L u u' w w') :
    (r.get w).1 = (r.get w').1 ∧ World.Alike L u u' (r.get w).2 (r.get w').2 := by
  cases r with
  | fixed region => exact ⟨rfl, h⟩
  | scripted answer => exact ⟨rfl, h.call _⟩
  | lookup profile =>
    dsimp only [get]
    rw [find_alike profile h]
    cases find profile w' with
    | error failure => exact ⟨rfl, h⟩
    | ok found =>
      cases found with
      | none => exact ⟨rfl, h⟩
      | some region =>
        by_cases hr : region = ""
        · simp only [hr, if_true]
          exact ⟨trivial, h⟩
        · simp only [hr, if_false]
          exact ⟨trivial, h.record ..⟩

end RegionProvider

/-! ### Services -/

theorem next_alike {α β : Type} {R : α → β → Prop} {a : α} {b : β} {s : Script α} {s' : Script β}
    (h : List.Forall₂ R s s') (hd : R a b) :
    R (s.next a).1 (s'.next b).1 ∧ List.Forall₂ R (s.next a).2 (s'.next b).2 := by
  cases h with
  | nil => exact ⟨hd, .nil⟩
  | cons hab hrest =>
    cases hrest with
    | nil => exact ⟨hab, .cons hab .nil⟩
    | cons hcd hrest => exact ⟨hab, .cons hcd hrest⟩

namespace InstanceProfile

theorem fieldsAt_alike {a a' : MetadataAnswer} {now now' : Int} (h : a.Alike L a')
    (hn : now = now') :
    Fields (L.Field metadataSecrets) (fieldsAt a now) (fieldsAt a' now') := by
  subst hn
  unfold fieldsAt
  rw [h.expiresIn]
  cases a'.expiresIn with
  | none => exact h.fields
  | some micros =>
    have hkept : Fields (L.Field metadataSecrets) (a.fields.filter (·.1 ≠ "expiry_time"))
        (a'.fields.filter (·.1 ≠ "expiry_time")) :=
      List.rel_filter (fun e e' he => by simp only [he.1]) h.fields
    have hadded : L.Field metadataSecrets "expiry_time"
        (.text (Time.wholeSecondsText (now + micros)))
        (.text (Time.wholeSecondsText (now + micros))) := .of_eq _
    exact List.rel_append hkept (.cons ⟨rfl, hadded⟩ .nil)

theorem query_alike (h : World.Alike L u u' w w') :
    Both (Fields (L.Field metadataSecrets)) (query w).1 (query w').1 ∧
      World.Alike L u u' (query w).2 (query w').2 := by
  have hd : Both (ε := String → Failure) (MetadataAnswer.Alike L) (.ok {}) (.ok {}) :=
    .ok ⟨.nil, rfl⟩
  obtain ⟨hnext, hrest⟩ := next_alike h.metadata hd
  have hcall := h.call .metadata
  unfold query
  generalize w.metadata.next (.ok {}) = r at hnext hrest
  generalize w'.metadata.next (.ok {}) = r' at hnext hrest
  obtain ⟨outcome, rest⟩ := r
  obtain ⟨outcome', rest'⟩ := r'
  have hw : World.Alike L u u' { w.call .metadata with metadata := rest }
      { w'.call .metadata with metadata := rest' } := { hcall with metadata := hrest }
  cases hnext with
  | error failure => exact ⟨.error _, hw⟩
  | @ok a a' ha =>
    dsimp only
    exact ⟨.ok (fieldsAt_alike ha hcall.clock), hw⟩

theorem fetch_alike (h : World.Alike L u u' w w') :
    Both (Delivery.Alike L) (fetch w).1 (fetch w').1 ∧
      World.Alike L u u' (fetch w).2 (fetch w').2 := by
  obtain ⟨hq, hw⟩ := query_alike h
  unfold fetch
  generalize query w = r at hq hw
  generalize query w' = r' at hq hw
  obtain ⟨answer, v⟩ := r
  obtain ⟨answer', v'⟩ := r'
  cases hq with
  | error failure => exact ⟨.error _, hw⟩
  | @ok m m' hm =>
    exact ⟨.ok (Delivery.Alike.ofFields hm), hw⟩

end InstanceProfile

end CloudCredentials
