import CloudCredentials.Proofs.DescribedSources

/-!
# Providers told by their descriptions

The description of the configured provider tells the provider: which sources there are, in which
chain, and what each of them was given, secrets aside. The exception is the place of a profile:
the default files are not told from a file that is named like them.
-/

namespace CloudCredentials

/-! ### Providers -/

namespace Provider

/-- Providers of the same shape whose sources match. -/
abbrev Matches (P : Option Path → Option Path → Prop) (p p' : Provider) : Prop :=
  Tree.Alike (Source.Matches P) p p'

def IsPlain (p : Provider) : Prop := ∀ s ∈ Tree.leaves p, s.IsPlain

/-- The places that the profiles are looked up in. -/
def places (p : Provider) : List (Option Path) := (Tree.leaves p).filterMap Source.place?

/-- One of the providers looks a profile up in the default files, and the other one looks a profile
up in their namesake. -/
def Misread (p p' : Provider) : Prop :=
  ∃ place ∈ p.places, ∃ place' ∈ p'.places, NamedProfile.Misread place place'

variable {p p' : Provider}

theorem Matches.places_eq (h : p.Matches Eq p') : p.places = p'.places := by
  have hleaves := h.leaves
  unfold places
  generalize Tree.leaves p = sources, Tree.leaves p' = sources' at hleaves ⊢
  induction hleaves with
  | nil => rfl
  | cons hs _ ih => simp only [List.filterMap_cons, hs.place?_eq, ih]

/-- In a provider whose sources have names of their own, one profile at most is looked up. -/
theorem eq_of_mem_places (hn : p.names.Nodup) {place place' : Option Path} (h : place ∈ p.places)
    (h' : place' ∈ p.places) : place = place' := by
  obtain ⟨s, hs, hplace⟩ := List.mem_filterMap.mp h
  obtain ⟨s', hs', hplace'⟩ := List.mem_filterMap.mp h'
  have hname := (Source.name_of_place? hplace).trans (Source.name_of_place? hplace').symm
  have hsame : s = s' := List.inj_on_of_nodup_map hn hs hs' hname
  rw [hsame, hplace'] at hplace
  exact (Option.some.inj hplace).symm

section Plain

variable (hp : p.IsPlain) (hp' : p'.IsPlain)

include hp hp'

/-- Descriptions are the same exactly when the providers match, but for places that are taken for
each other. -/
theorem describe_eq_iff : p.describe = p'.describe ↔ p.Matches NamedProfile.LooksSame p' := by
  constructor
  · intro h
    have halike : Tree.ShownAlike Source.behaviour p p' :=
      Tree.shownAlike_of_lines (fun s hs => (hp s hs).isSourceTitle)
        (fun s hs => (hp' s hs).isSourceTitle) 0 h
    exact halike.imp_of_mem fun s hs s' hs' => (Source.shown_eq_iff (hp s hs) (hp' s' hs')).mp
  · intro h
    have halike : Tree.Alike (fun s s' => s.name = s'.name ∧ s.shown = s'.shown) p p' :=
      h.imp_of_mem fun s hs s' hs' hm =>
        ⟨hm.name, (Source.shown_eq_iff (hp s hs) (hp' s' hs')).mpr hm⟩
    exact Tree.lines_alike ⟨And.left, And.right⟩ halike 0

/-- Providers are the same exactly when they are described in the same way and no place is taken
for another one. -/
theorem matches_eq_iff (hn : p'.names.Nodup) :
    p.Matches Eq p' ↔ p.describe = p'.describe ∧ ¬ p.Misread p' := by
  constructor
  · intro h
    have hlooks : p.Matches NamedProfile.LooksSame p' :=
      h.imp_of_mem fun s _ s' _ hm => hm.imp_places fun _ _ _ _ => .inl
    refine ⟨(describe_eq_iff hp hp').mpr hlooks, ?_⟩
    rintro ⟨place, hplace, place', hplace', hmisread⟩
    rw [Matches.places_eq h] at hplace
    rw [eq_of_mem_places hn hplace hplace'] at hmisread
    exact NamedProfile.not_misread_self place' hmisread
  · rintro ⟨h, hread⟩
    refine ((describe_eq_iff hp hp').mp h).imp_of_mem fun s hs s' hs' hm => hm.imp_places ?_
    intro place hplace place' hplace' hlooks
    refine hlooks.resolve_right fun hmisread => hread ⟨place, ?_, place', ?_, hmisread⟩
    · exact List.mem_filterMap.mpr ⟨s, hs, hplace⟩
    · exact List.mem_filterMap.mpr ⟨s', hs', hplace'⟩

/-- The whole text of a description tells its lines. -/
theorem describe_eq_of_text
    (h : String.join (p.describe.map (· ++ "\n")) = String.join (p'.describe.map (· ++ "\n"))) :
    p.describe = p'.describe := by
  have hsplit := congrArg (fun text => text.toList.splitOnP Text.isLineBreak) h
  rw [splitOnP_describe fun s hs => (hp s hs).isOwn, splitOnP_describe fun s hs => (hp' s hs).isOwn]
    at hsplit
  exact List.map_injective_iff.mpr (fun _ _ => String.toList_inj.mp)
    (List.append_cancel_right hsplit)

end Plain

end Provider

/-! ### Configured providers -/

namespace Selection

theorem Makes.isPlain {home : Option String} {client : Option Client} {p : CredentialsProperties}
    (hp : p.IsNormal) {k : Kind} {s : Source} (h : Makes home client p k s) : s.IsPlain := by
  cases h with
  | fixed ha hs => exact ⟨_, rfl⟩
  | metadata => trivial
  | @profile given name path hg hn he =>
    intro q hq
    have hgiven := hp.profile given hg
    cases hpath : given.path with
    | none =>
      rw [hpath] at he
      cases he
      cases hq
    | some written =>
      rw [hpath] at he
      cases he with
      | some he =>
        cases hq
        exact (hgiven written hpath).expandHome he
  | @federation sts c hs hc =>
    intro file hf
    obtain ⟨path, hpath, rfl⟩ := Option.map_eq_some_iff.mp hf
    exact hp.tokenFile sts hs path hpath

theorem arranged_isPlain {home : Option String} {client : Option Client}
    {p : CredentialsProperties} (hp : p.IsNormal) {kinds : List Kind} {sources : List Source}
    {provider : Provider} (hs : List.Forall₂ (Makes home client p) kinds sources)
    (ha : Arranged sources provider) : provider.IsPlain := by
  have all : ∀ s ∈ sources, s.IsPlain := by
    clear ha
    induction hs with
    | nil => exact List.forall_mem_nil _
    | cons hm _ ih => exact List.forall_mem_cons.mpr ⟨hm.isPlain hp, ih⟩
  intro s hmem
  rcases ha.mem_leaves hmem with hmem | ⟨-, rfl⟩
  · exact all s hmem
  · trivial

theorem resolve_isPlain {available : Option Bool} {region : World → Step String}
    {factory : ClientFactory} {p : CredentialsProperties} {w v : World} {provider : Provider}
    (hp : p.IsNormal) (h : resolve available region factory p w = (.ok provider, v)) :
    provider.IsPlain := by
  have hcases := resolve_cases available region factory p w
  rw [h] at hcases
  cases hcases with
  | plain _ _ hs ha | federated _ _ _ _ hs ha => exact arranged_isPlain hp hs ha

end Selection

namespace CommandLine

theorem configured_isPlain {config : Option String} {w v : World} {provider : Provider}
    {region : RegionProvider} (h : configured config w = (.ok (provider, region), v)) :
    provider.IsPlain := by
  obtain ⟨settings, u, hload, -, hs⟩ := configured_ok h
  exact Selection.resolve_isPlain (loadSettings_isNormal hload) hs

theorem exists_configured {arguments : List String} {debug : Bool} {config : Option String}
    {w : World} (ha : request arguments = .ok (.run debug .describe config))
    (hx : (run arguments w).1.exitCode = 0) :
    ∃ provider region v, configured config w = (.ok (provider, region), v) := by
  have hrun : (run arguments w).1 = conclude isExpected debug (describe config w).1 := by
    rw [run, ha]
    rfl
  rw [hrun] at hx
  rcases hd : describe config w with ⟨failure | output, x⟩
  · rw [hd] at hx
    unfold conclude at hx
    dsimp only at hx
    split at hx <;> cases hx
  · obtain ⟨provider, region, v, hc, -⟩ := describe_ok hd
    exact ⟨provider, region, v, hc⟩

theorem run_of_configured {arguments : List String} {debug : Bool} {config : Option String}
    {w v : World} {provider : Provider} {region : RegionProvider}
    (ha : request arguments = .ok (.run debug .describe config))
    (hc : configured config w = (.ok (provider, region), v)) :
    (run arguments w).1 =
      ⟨0, String.join (provider.describe.map (· ++ "\n")), "", debug, none⟩ := by
  have hd : describe config w =
      (.ok (String.join (provider.describe.map (· ++ "\n"))), (provider.close v).2) := by
    unfold describe
    rw [hc]
  rw [run, ha]
  dsimp only [answer]
  rw [hd]
  rfl

/-- Two descriptions that succeed have the same output exactly when the providers have the same
shape and their sources are of the same kinds and were given the same, secrets aside, up to a
profile that is looked up in the default files for one of them and in the file with the name
`default` for the other. Where that is not so, the same output means the same provider. -/
theorem run_identifies_iff {arguments arguments' : List String} {debug debug' : Bool}
    {config config' : Option String} {w w' : World}
    (ha : request arguments = .ok (.run debug .describe config))
    (ha' : request arguments' = .ok (.run debug' .describe config'))
    (hx : (run arguments w).1.exitCode = 0) (hx' : (run arguments' w').1.exitCode = 0) :
    ∃ p region v p' region' v', configured config w = (.ok (p, region), v) ∧
      configured config' w' = (.ok (p', region'), v') ∧
      ((run arguments w).1.output = (run arguments' w').1.output ↔
        p.Matches NamedProfile.LooksSame p') ∧
      (p.Matches Eq p' ↔
        (run arguments w).1.output = (run arguments' w').1.output ∧ ¬ p.Misread p') := by
  obtain ⟨p, region, v, hc⟩ := exists_configured ha hx
  obtain ⟨p', region', v', hc'⟩ := exists_configured ha' hx'
  have hp := configured_isPlain hc
  have hp' := configured_isPlain hc'
  have hlines : (run arguments w).1.output = (run arguments' w').1.output ↔
      p.describe = p'.describe := by
    rw [run_of_configured ha hc, run_of_configured ha' hc']
    refine ⟨Provider.describe_eq_of_text hp hp', fun h => ?_⟩
    rw [h]
  refine ⟨p, region, v, p', region', v', hc, hc', ?_, ?_⟩
  · rw [hlines]
    exact Provider.describe_eq_iff hp hp'
  · rw [hlines]
    exact Provider.matches_eq_iff hp hp' (configured_nodup hc')

/-- A profile whose file is written with a tilde, beside the instance metadata. -/
def tildeProfile : World where
  environment := [("AWS_AUTOCONFIG_CREDENTIALS__INSTANCE_PROFILE", "true"),
    ("AWS_AUTOCONFIG_CREDENTIALS__PROFILE__NAME", "it's"),
    ("AWS_AUTOCONFIG_CREDENTIALS__PROFILE__PATH", "~/keys"), ("HOME", "/home/dev")]

/-- The same with the whole path of the file, and another word for the metadata. -/
def spelledProfile : World where
  environment := [("AWS_AUTOCONFIG_CREDENTIALS__INSTANCE_PROFILE", "yes"),
    ("AWS_AUTOCONFIG_CREDENTIALS__PROFILE__NAME", "it's"),
    ("AWS_AUTOCONFIG_CREDENTIALS__PROFILE__PATH", "/home/./dev//keys")]

def profileSettings (instanceProfile : Bool) (name : String) (path : Option Path) : Settings where
  credentials := { instanceProfile, profile := some ⟨some name, path⟩ }

def devKeys : Path := ⟨.slash, ["home", "dev", "keys"]⟩

/-- The provider of a profile in a file, beside the instance metadata. -/
def machineOrKeys : Provider :=
  .chain [.leaf .ofInstance, .leaf (.profile ⟨⟨"it's", some devKeys⟩, none⟩)]

theorem configured_tildeProfile :
    configured none tildeProfile = (.ok (machineOrKeys, .lookup none), tildeProfile) := by
  have hsettings : (settingsFrom settingsTitle none tildeProfile).toOption =
      some (profileSettings true "it's" (some ⟨.none, ["~", "keys"]⟩)) := by
    decide +kernel
  exact configured_of_settings hsettings

theorem configured_spelledProfile :
    configured none spelledProfile = (.ok (machineOrKeys, .lookup none), spelledProfile) := by
  have hsettings : (settingsFrom settingsTitle none spelledProfile).toOption =
      some (profileSettings true "it's" (some devKeys)) := by
    decide +kernel
  exact configured_of_settings hsettings

/-- However the path is written, the description is the same, and so is the provider. -/
theorem run_identifies_iff_spelledProfile :
    request ["describe"] = .ok (.run false .describe none) ∧
      (run ["describe"] tildeProfile).1.exitCode = 0 ∧
      (run ["describe"] spelledProfile).1.exitCode = 0 ∧
      (run ["describe"] tildeProfile).1.output = (run ["describe"] spelledProfile).1.output ∧
      ∃ p region v p' region' v', configured none tildeProfile = (.ok (p, region), v) ∧
        configured none spelledProfile = (.ok (p', region'), v') ∧ p.Matches Eq p' := by
  have ha : request ["describe"] = .ok (.run false .describe none) := rfl
  have hrun := run_of_configured ha configured_tildeProfile
  have hrun' := run_of_configured ha configured_spelledProfile
  have hx : (run ["describe"] tildeProfile).1.exitCode = 0 := by rw [hrun]
  have hx' : (run ["describe"] spelledProfile).1.exitCode = 0 := by rw [hrun']
  have hsame : (run ["describe"] tildeProfile).1.output =
      (run ["describe"] spelledProfile).1.output := by
    rw [hrun, hrun']
  obtain ⟨p, region, v, p', region', v', hc, hc', -, hiff⟩ := run_identifies_iff ha ha hx hx'
  refine ⟨ha, hx, hx', hsame, p, region, v, p', region', v', hc, hc', hiff.mpr ⟨hsame, ?_⟩⟩
  cases hc.symm.trans configured_tildeProfile
  cases hc'.symm.trans configured_spelledProfile
  have hplaces : machineOrKeys.places = [some devKeys] := rfl
  rintro ⟨place, hplace, place', hplace', hmisread⟩
  rw [hplaces] at hplace hplace'
  rw [List.mem_singleton.mp hplace, List.mem_singleton.mp hplace'] at hmisread
  exact NamedProfile.not_misread_self _ hmisread

/-- A profile without a file of its own. -/
def defaultProfile : World where
  environment := [("AWS_AUTOCONFIG_CREDENTIALS__PROFILE__NAME", "dev")]

/-- A profile with a file that has the name of the default place. -/
def namesakeProfile : World where
  environment := [("AWS_AUTOCONFIG_CREDENTIALS__PROFILE__NAME", "dev"),
    ("AWS_AUTOCONFIG_CREDENTIALS__PROFILE__PATH", "default")]

def devIn (place : Option Path) : Provider := .leaf (.profile ⟨⟨"dev", place⟩, none⟩)

theorem configured_defaultProfile :
    configured none defaultProfile = (.ok (devIn none, .lookup none), defaultProfile) := by
  have hsettings : (settingsFrom settingsTitle none defaultProfile).toOption =
      some (profileSettings false "dev" none) := by
    decide +kernel
  exact configured_of_settings hsettings

theorem configured_namesakeProfile : configured none namesakeProfile =
    (.ok (devIn (some NamedProfile.namesake), .lookup none), namesakeProfile) := by
  have hsettings : (settingsFrom settingsTitle none namesakeProfile).toOption =
      some (profileSettings false "dev" (some NamedProfile.namesake)) := by
    decide +kernel
  exact configured_of_settings hsettings

/-- The description does not tell the default place of a profile from a file with its name. -/
theorem not_identifies_namesake :
    request ["describe"] = .ok (.run false .describe none) ∧
      (run ["describe"] defaultProfile).1.exitCode = 0 ∧
      (run ["describe"] namesakeProfile).1.exitCode = 0 ∧
      (run ["describe"] defaultProfile).1.output = (run ["describe"] namesakeProfile).1.output ∧
      ∃ p region v p' region' v', configured none defaultProfile = (.ok (p, region), v) ∧
        configured none namesakeProfile = (.ok (p', region'), v') ∧ ¬ p.Matches Eq p' := by
  have ha : request ["describe"] = .ok (.run false .describe none) := rfl
  have hrun := run_of_configured ha configured_defaultProfile
  have hrun' := run_of_configured ha configured_namesakeProfile
  have hlines : (devIn none).describe = (devIn (some NamedProfile.namesake)).describe := by decide
  refine ⟨ha, by rw [hrun], by rw [hrun'], by rw [hrun, hrun', hlines], _, _, _, _, _, _,
    configured_defaultProfile, configured_namesakeProfile, fun h => ?_⟩
  cases Provider.Matches.places_eq h

end CommandLine

end CloudCredentials
