import CloudCredentials.Proofs.ExplicitFile
import CloudCredentials.Proofs.ProblemTexts
import CloudCredentials.Proofs.SecretWorlds

/-!
# Secrets in descriptions

A description of the configured provider tells of the secret key what its refusal says, if it is
refused, and nothing else: in two worlds that differ in the secret key only, the reports are the
same exactly when the two keys are both accepted or their refusals say the same. Where the sources
of the settings cannot be read at all, it tells what their failure says.
-/

namespace CloudCredentials

open CommandLine

/-! ### Describing loaded settings -/

namespace CommandLine

def loadedTitle : Option String → String
  | none => settingsTitle
  | some _ => fileSettingsTitle

/-- The world in which settings are read. -/
def loading (config : Option String) (w : World) : World :=
  match config with
  | none => w
  | some name => w.record .debug .settings ("Loading settings from " ++ (Path.ofText name).text)

theorem loadSettings_of_found {config : Option String} {w : World}
    (hf : (config.all fun name => w.files.isFile (Path.ofText name).text) = true) :
    loadSettings config w =
      (settingsFrom (loadedTitle config) (config.map Path.ofText) w, loading config w) := by
  cases config with
  | none => rfl
  | some name =>
    have hf : w.files.isFile (Path.ofText name).text = true := hf
    unfold loadSettings
    dsimp only
    rw [if_pos hf]
    rfl

theorem sameView_loading {w w' : World} (h : w.SameView w') (config : Option String) :
    (loading config w).SameView (loading config w') := by
  cases config with
  | none => exact h
  | some name => exact h.record ..

/-- What a description comes to once the settings are loaded. -/
def describeSettings (settings : Settings) (w : World) : Step String :=
  match Selection.resolve none (RegionProvider.ofProperties settings.region).get unsignedFactory
    settings.credentials w with
  | (.error failure, w) => (.error failure, w)
  | (.ok provider, w) =>
    (.ok (String.join (provider.describe.map (· ++ "\n"))), (provider.close w).2)

theorem describe_eq (config : Option String) (w : World) :
    describe config w = match loadSettings config w with
      | (.error failure, v) => (.error failure, v)
      | (.ok settings, v) => describeSettings settings v := by
  unfold describe configured describeSettings
  rcases loadSettings config w with ⟨failure | settings, v⟩
  · rfl
  · dsimp only
    rcases Selection.resolve none (RegionProvider.ofProperties settings.region).get unsignedFactory
      settings.credentials v with ⟨failure | provider, u⟩
    · rfl
    · rfl

/-- Twins are described alike. -/
theorem describeSettings_twin {s s' : Settings} (hs : s.Twin s') {w w' : World}
    (h : w.SameView w') : (describeSettings s w).1 = (describeSettings s' w').1 ∧
      (describeSettings s w).2.log = (describeSettings s' w').2.log := by
  obtain ⟨hanswer, hview⟩ := Selection.resolve_twin h (.ofProperties s'.region) hs.credentials
  unfold describeSettings
  rw [hs.region]
  rcases hr : Selection.resolve none (RegionProvider.ofProperties s'.region).get unsignedFactory
    s.credentials w with ⟨answer, v⟩
  rcases hr' : Selection.resolve none (RegionProvider.ofProperties s'.region).get unsignedFactory
    s'.credentials w' with ⟨answer', v'⟩
  rw [hr, hr'] at hanswer hview
  dsimp only at hanswer hview
  cases hanswer with
  | error failure => exact ⟨rfl, hview.log⟩
  | @ok provider provider' hd =>
    have closed {q : Provider} {x u : World} {p : CredentialsProperties}
        (hq : Selection.resolve none (RegionProvider.ofProperties s'.region).get unsignedFactory p
          x = (.ok q, u)) : u = (q.close u).2 :=
      Provider.close_world (fun s hs => (selected_isGenuine hq s hs).isOwn) u
    dsimp only
    rw [← closed hr, ← closed hr', hd]
    exact ⟨rfl, hview.log⟩

/-! ### Failures of a selection -/

/-- The message starts, and neither with a number nor with a style. -/
def isWorded (f : Failure) : Bool :=
  f.message.toList.head?.any fun c => !c.isDigit && c ≠ Text.escapeChar

/-- A failure that a description reports, if it does, in words. -/
def isReportedInWords (f : Failure) : Bool := !isExpected f || isWorded f

theorem isReportedInWords_ofProfiles {f : Failure} (h : f.IsOfProfiles) :
    isReportedInWords f = true := by
  rcases h with ⟨path, rfl⟩ | ⟨name, rfl⟩
  · rfl
  · rfl

theorem get_inWords {r : RegionProvider} (hr : r.IsConfigured) (w : World) :
    FailsOnly isReportedInWords (r.get w).1 := by
  cases r with
  | fixed region => exact failsOnly_ok region
  | scripted answer => exact hr.elim
  | lookup profile =>
    cases hr
    unfold RegionProvider.get
    dsimp only
    cases hf : RegionProvider.find none w with
    | error failure =>
      obtain ⟨-, -, ho⟩ := RegionProvider.find_failure.mp hf
      exact (failsOnly_error failure).mpr
        (isReportedInWords_ofProfiles (ActiveProfile.options_failure ho))
    | ok found =>
      have hadvice : isReportedInWords (.regionNotFound Failure.regionAdvice) = true := by decide
      cases found with
      | none => exact (failsOnly_error _).mpr hadvice
      | some region =>
        dsimp only
        split
        · exact (failsOnly_error _).mpr hadvice
        · exact failsOnly_ok region

theorem inWords_of_append {f : Failure} {s : String} (c : Char) (rest : List Char)
    (hm : f.message = String.ofList (c :: rest) ++ s)
    (hc : (!c.isDigit && c ≠ Text.escapeChar) = true) : isReportedInWords f = true := by
  unfold isReportedInWords isWorded
  rw [hm, String.toList_append, String.toList_ofList, List.cons_append, List.head?_cons,
    Option.any_some, hc, Bool.or_true]

end CommandLine

/-- What the SDK says of settings that it refuses starts as words do, with neither a number nor a
style, if a description reports it. -/
def ClientRules.SpeakInWords (rules : ClientRules) : Prop :=
  ∀ settings failure, rules.Raises settings failure →
    CommandLine.isReportedInWords failure = true

theorem ClientRules.usual_speakInWords : usual.SpeakInWords := by
  rintro settings failure (h | h | ⟨region, h⟩)
  · cases h
  · cases h
  · obtain ⟨url, rfl⟩ := endpointRegion_failure h
    exact CommandLine.inWords_of_append 'I' "nvalid endpoint: ".toList rfl (by decide)

namespace CommandLine

variable {w : World} (hc : w.clients.SpeakInWords)

include hc

theorem unsignedFactory_inWords (name : String) :
    FailsOnly isReportedInWords (unsignedFactory name w).1 := by
  have hregion (name : String) : isReportedInWords (.invalidRegion name) = true :=
    inWords_of_append 'P' "rovided region_name '".toList (String.append_assoc ..) (by decide)
  exact (freshClient_failsOnly (some name) w hregion).mpr
    (not_clientEscapes (fun _ => isReportedInWords_ofProfiles) hc (some name))

/-- A description of loaded settings that fails is reported in words. -/
theorem describeSettings_inWords (s : Settings) :
    FailsOnly isReportedInWords (describeSettings s w).1 := by
  have hr := RegionProvider.isConfigured_ofProperties (some s.region)
  have hclients : ((RegionProvider.ofProperties s.region).get (Selection.federating w)).2.clients =
      w.clients := by
    obtain ⟨log, hv⟩ := RegionProvider.get_leaves hr (Selection.federating w)
    rw [hv]
    rfl
  have hres := Selection.resolve_cases none (RegionProvider.ofProperties s.region).get
    unsignedFactory s.credentials w
  unfold describeSettings
  generalize Selection.resolve none (RegionProvider.ofProperties s.region).get unsignedFactory
    s.credentials w = result at hres
  cases hres with
  | homeless hh => exact (failsOnly_error _).mpr rfl
  | plain hh hf hs ha => exact failsOnly_ok _
  | regionless hh hf hg => exact (get_inWords hr _).passed (congrArg Prod.fst hg)
  | clientless hh hf hg hmade =>
    have hspeak := hc
    rw [← hclients, hg] at hspeak
    exact (unsignedFactory_inWords hspeak _).passed (congrArg Prod.fst hmade)
  | federated hh hf hg hmade hs ha => exact failsOnly_ok _

omit hc

/-! ### Reports of refused settings -/

/-- The first character stays, unless a style starts with it. -/
theorem head?_withoutStyles {s : String} {c : Char} (h : s.toList.head? = some c)
    (hc : c ≠ Text.escapeChar) : (Text.withoutStyles s).toList.head? = some c := by
  obtain ⟨rest, hs⟩ := List.head?_eq_some_iff.mp h
  unfold Text.withoutStyles
  rw [hs, String.toList_ofList, Text.dropStyles_cons hc, List.head?_cons]

theorem head?_problemsMessage (title : String) (ps : List Problem) :
    ∃ c, (problemsMessage title ps).toList.head? = some c ∧ c.isDigit = true := by
  obtain ⟨rest, h⟩ := problemsMessage_eq title ps
  have hne : Nat.toDigits 10 ps.length ≠ [] := Nat.toDigits_ne_nil
  obtain ⟨c, digits, hd⟩ := List.exists_cons_of_ne_nil hne
  have hc : c ∈ Nat.toDigits 10 ps.length := by
    rw [hd]
    exact List.mem_cons_self
  refine ⟨c, ?_, Nat.isDigit_of_mem_toDigits (by decide) (by decide) hc⟩
  rw [h, Nat.toString_eq_ofList_toDigits, String.toList_append, String.toList_ofList, hd,
    List.cons_append, List.head?_cons]

theorem conclude_invalid (debug : Bool) (title : String) (ps : List Problem) :
    conclude isExpected debug (.error (.invalid title ps) : Except Failure String) =
      ⟨1, "", complaintLine (problemsMessage title ps), debug, none⟩ := rfl

/-- A complaint about settings starts with a number, and is told from what is said in words. -/
theorem message_ne_problemsMessage {f : Failure} (hf : isWorded f = true) (title : String)
    (ps : List Problem) :
    Text.withoutStyles f.message ≠ Text.withoutStyles (problemsMessage title ps) := by
  intro htexts
  obtain ⟨c, hc, hother⟩ := (Option.any_eq_true ..).mp hf
  obtain ⟨hdigit, hstyle⟩ := Bool.and_eq_true_iff.mp hother
  obtain ⟨d, hd, hnumber⟩ := head?_problemsMessage title ps
  have hplain : d ≠ Text.escapeChar := by
    rintro rfl
    exact absurd hnumber (by decide)
  have hfirst := head?_withoutStyles hc (of_decide_eq_true hstyle)
  rw [htexts, head?_withoutStyles hd hplain] at hfirst
  cases hfirst
  rw [hnumber] at hdigit
  cases hdigit

theorem conclude_ne_invalid {result : Except Failure String}
    (h : FailsOnly isReportedInWords result) (debug : Bool) (title : String) (ps : List Problem) :
    conclude isExpected debug result ≠ conclude isExpected debug (.error (.invalid title ps)) := by
  rw [conclude_invalid]
  cases result with
  | ok output =>
    intro he
    have hcode := congrArg Report.exitCode he
    cases hcode
  | error failure =>
    have hwords := (failsOnly_error failure).mp h
    unfold conclude
    dsimp only
    split
    · rename_i hexpected
      intro he
      have hline := congrArg Report.complaint he
      dsimp only at hline
      rw [complaintLine_eq, complaintLine_eq] at hline
      have htexts := (String.append_right_inj _).mp ((String.append_left_inj _).mp hline)
      have hworded : isWorded failure = true := by
        unfold isReportedInWords at hwords
        rwa [hexpected, Bool.not_true, Bool.false_or] at hwords
      exact message_ne_problemsMessage hworded title ps htexts
    · intro he
      have hunexpected := congrArg Report.unexpected he
      cases hunexpected

theorem remarks_eq_of_messages {v v' : Option Value}
    (h : (secretProblems v).map Problem.message = (secretProblems v').map Problem.message) :
    Value.remarksOn v = Value.remarksOn v' := by
  rw [messages_secretProblems, messages_secretProblems] at h
  exact List.map_injective_iff.mpr (fun _ _ hs => (String.append_right_inj _).mp hs) h

/-- Among the same other problems, the complaint tells what the one of the secret key says. -/
theorem remarks_eq_of_problemsMessage {title : String} {before after : List Problem}
    {v v' : Option Value}
    (h : problemsMessage title (before ++ secretProblems v ++ after) =
      problemsMessage title (before ++ secretProblems v' ++ after)) :
    Value.remarksOn v = Value.remarksOn v' := by
  have hlength := length_eq_of_problemsMessage h
  have hv := length_secretProblems_le v
  have hv' := length_secretProblems_le v'
  refine remarks_eq_of_messages ?_
  generalize secretProblems v = ps at h hlength hv
  generalize secretProblems v' = qs at h hlength hv'
  simp only [List.length_append] at hlength
  cases ps with
  | nil =>
    cases qs with
    | nil => rfl
    | cons q qs =>
      rw [List.length_nil, List.length_cons] at hlength
      omega
  | cons p ps =>
    cases qs with
    | nil =>
      rw [List.length_nil, List.length_cons] at hlength
      omega
    | cons q qs =>
      have hps : ps = [] := List.length_eq_zero_iff.mp (Nat.le_zero.mp (Nat.le_of_succ_le_succ hv))
      have hqs : qs = [] := List.length_eq_zero_iff.mp (Nat.le_zero.mp (Nat.le_of_succ_le_succ hv'))
      subst hps hqs
      rw [List.append_assoc, List.append_assoc, List.singleton_append, List.singleton_append] at h
      rw [List.map_singleton, List.map_singleton, message_eq_of_problemsMessage h]

/-! ### Descriptions in two worlds -/

/-- What a description comes to once the settings are checked. -/
def describeChecked (title : String) (checked : Checked Settings) (w : World) : Step String :=
  match checked.mapError (Failure.invalid title) with
  | .error failure => (.error failure, w)
  | .ok settings => describeSettings settings w

section Checked

variable {m m' : Mapping} (hm : Mapping.TwinSections m m') {w w' : World} (debug : Bool)
  (title : String)

include hm

theorem describeChecked_eq (h : w.SameView w')
    (hr : Value.remarksOn m.secret? = Value.remarksOn m'.secret?) :
    conclude isExpected debug (describeChecked title (checkSettings m) w).1 =
        conclude isExpected debug (describeChecked title (checkSettings m') w').1 ∧
      (describeChecked title (checkSettings m) w).2.log =
        (describeChecked title (checkSettings m') w').2.log := by
  have hchecked := checkSettings_alike hm hr
  unfold describeChecked
  generalize checkSettings m = r at hchecked
  generalize checkSettings m' = r' at hchecked
  cases hchecked with
  | ok hs =>
    obtain ⟨hanswer, hlog⟩ := describeSettings_twin hs h
    exact ⟨congrArg (conclude isExpected debug) hanswer, hlog⟩
  | @error ps qs hps =>
    refine ⟨?_, h.log⟩
    have htext := problemsMessage_alike hps title
    exact (conclude_invalid debug title ps).trans
      ((congrArg (fun text => (⟨1, "", complaintLine text, debug, none⟩ : Report)) htext).trans
        (conclude_invalid debug title qs).symm)

theorem remarks_of_describeChecked (hw : w.clients.SpeakInWords) (hw' : w'.clients.SpeakInWords)
    (ht : Text.Unstyled title)
    (he : conclude isExpected debug (describeChecked title (checkSettings m) w).1 =
      conclude isExpected debug (describeChecked title (checkSettings m') w').1) :
    Value.remarksOn m.secret? = Value.remarksOn m'.secret? := by
  obtain ⟨before, after, hp, hp'⟩ := problems_checkSettings hm
  have hplain := checkSettings_isPlain m
  have hplain' := checkSettings_isPlain m'
  unfold describeChecked at he
  cases hc : checkSettings m with
  | ok s =>
    rw [hc] at hp he
    cases hc' : checkSettings m' with
    | ok s' =>
      rw [hc'] at hp'
      obtain ⟨-, hnone⟩ := List.append_eq_nil_iff.mp (List.append_eq_nil_iff.mp hp.symm).1
      obtain ⟨-, hnone'⟩ := List.append_eq_nil_iff.mp (List.append_eq_nil_iff.mp hp'.symm).1
      exact remarks_eq_of_messages (by rw [hnone, hnone'])
    | error qs =>
      rw [hc'] at he
      exact absurd he (conclude_ne_invalid (describeSettings_inWords hw s) debug title qs)
  | error ps =>
    rw [hc] at hp he hplain
    cases hc' : checkSettings m' with
    | ok s' =>
      rw [hc'] at he
      exact absurd he.symm (conclude_ne_invalid (describeSettings_inWords hw' s') debug title ps)
    | error qs =>
      rw [hc'] at hp' he hplain'
      have hp : ps = before ++ secretProblems m.secret? ++ after := hp
      have hp' : qs = before ++ secretProblems m'.secret? ++ after := hp'
      -- styles are taken out of a complaint; here there are none, so that it gives back its text
      have hlines : complaintLine (problemsMessage title ps) =
          complaintLine (problemsMessage title qs) := congrArg Report.complaint he
      have htexts := complaintLine_inj (problemsMessage_unstyled ht hplain)
        (problemsMessage_unstyled ht hplain') hlines
      rw [hp, hp'] at htexts
      exact remarks_eq_of_problemsMessage htexts

end Checked

theorem describe_of_found {config : Option String} {w : World}
    (hf : (config.all fun name => w.files.isFile (Path.ofText name).text) = true) :
    describe config w = match gatherSettings (config.map Path.ofText) w with
      | .error failure => (.error failure, loading config w)
      | .ok m => describeChecked (loadedTitle config) (checkSettings m) (loading config w) := by
  rw [describe_eq, loadSettings_of_found hf]
  unfold settingsFrom describeChecked
  cases gatherSettings (config.map Path.ofText) w with
  | error failure => rfl
  | ok m =>
    dsimp only [bind, Except.bind]
    cases (checkSettings m).mapError (Failure.invalid (loadedTitle config)) <;> rfl

theorem describe_of_missing {name : String} {w : World}
    (hf : w.files.isFile (Path.ofText name).text = false) :
    describe (some name) w = (.error (.noConfigFile (Path.ofText name).text), w) := by
  rw [describe_eq, loadSettings_of_missing hf]

/-! ### What is told of the secret -/

/-- What is reported of a failure: its text if a command expects it, else the failure itself. -/
def told (f : Failure) : Option Failure × String :=
  if isExpected f then (none, Text.withoutStyles f.message) else (some f, "")

theorem conclude_error_iff (debug : Bool) (f g : Failure) :
    conclude isExpected debug (.error f : Except Failure String) =
      conclude isExpected debug (.error g) ↔ told f = told g := by
  unfold conclude told
  dsimp only
  cases isExpected f <;> cases isExpected g <;>
    simp [complaintLine_eq]

end CommandLine

/-- What is told of the secret key in effect: the remarks of its refusal, none if it is accepted;
if the sources of the settings cannot be read, what is told is their failure. -/
def World.secretRemarks (config : Option String) (w : World) :
    Except (Option Failure × String) (List String) :=
  if config.all fun name => w.files.isFile (Path.ofText name).text then
    match gatherSettings (config.map Path.ofText) w with
    | .error failure => .error (told failure)
    | .ok m => .ok (Value.remarksOn m.secret?)
  else .ok []

namespace CommandLine

theorem loadedTitle_unstyled (config : Option String) : Text.Unstyled (loadedTitle config) := by
  cases config with
  | none => exact (by decide : Text.Unstyled settingsTitle)
  | some name => exact (by decide : Text.Unstyled fileSettingsTitle)

theorem run_describe {arguments : List String} {debug : Bool} {config : Option String}
    (ha : request arguments = .ok (.run debug .describe config)) (w : World) :
    run arguments w = (conclude isExpected debug (describe config w).1, (describe config w).2) := by
  rw [run, ha]
  rfl

/-- In worlds that differ in the secret key only, the description of the configured provider
reports the same and leaves the same records exactly when the same is told of the secret key. Of a
fault in structured text only its stage is compared, for its wording is not kept. -/
theorem run_hides_iff {arguments : List String} {debug : Bool} {config : Option String}
    {w w' : World} (ha : request arguments = .ok (.run debug .describe config))
    (h : World.Twin config w w') (hw : w.clients.SpeakInWords) :
    ((run arguments w).1 = (run arguments w').1 ∧
        (run arguments w).2.log = (run arguments w').2.log) ↔
      w.secretRemarks config = w'.secretRemarks config := by
  have hview := sameView_loading h.sameView config
  have hguard : (config.all fun name => w.files.isFile (Path.ofText name).text) =
      config.all fun name => w'.files.isFile (Path.ofText name).text := by
    cases config with
    | none => rfl
    | some name => exact h.isFile name rfl
  rw [run_describe ha, run_describe ha]
  unfold World.secretRemarks
  rw [hguard]
  cases hf : config.all fun name => w'.files.isFile (Path.ofText name).text with
  | false =>
    cases config with
    | none => cases hf
    | some name =>
      have hf' : w'.files.isFile (Path.ofText name).text = false := hf
      rw [describe_of_missing hf', describe_of_missing ((h.isFile name rfl).trans hf')]
      exact iff_of_true ⟨rfl, h.log⟩ rfl
  | true =>
    -- from here on the worlds are compared by what was gathered in them
    rw [describe_of_found hf, describe_of_found (hguard.trans hf), if_pos rfl, if_pos rfl]
    have hgathered := gatherSettings_twin h
    generalize gatherSettings (config.map Path.ofText) w = gathered at hgathered
    generalize gatherSettings (config.map Path.ofText) w' = gathered' at hgathered
    cases hgathered with
    | error failure failure' =>
      dsimp only
      rw [conclude_error_iff, Except.error.injEq]
      exact and_iff_left hview.log
    | ok hm =>
      dsimp only
      rw [Except.ok.injEq]
      constructor
      · rintro ⟨hreport, -⟩
        have hloading (v : World) : (loading config v).clients = v.clients := by
          cases config with
          | none => rfl
          | some name => rfl
        have hspeak : (loading config w).clients.SpeakInWords := by rwa [hloading]
        have hspeak' : (loading config w').clients.SpeakInWords := by rwa [hloading, ← h.clients]
        exact remarks_of_describeChecked hm debug _ hspeak hspeak' (loadedTitle_unstyled config)
          hreport
      · exact describeChecked_eq hm debug _ hview

/-! ### Worlds with a secret -/

/-- Both keys in the environment. -/
def keyedWorld (secret : String) : World where
  environment := [("AWS_AUTOCONFIG_CREDENTIALS__ACCESS_KEY", "AKIADEV"),
    ("AWS_AUTOCONFIG_CREDENTIALS__SECRET_KEY", secret)]

def standardFiles : List String := ["~/.aws/config", "~/.aws/credentials"]

/-- Without a home directory, there are no profile files in their standard places. -/
theorem readSections_of_homeless {w : World} (hh : w.environment.home = none)
    (hf : ∀ file ∈ standardFiles, w.files.find file = .missing) :
    ∀ file ∈ standardFiles, ProfileFile.readSections w file = .ok none := by
  intro file hm
  have hplain : ∀ file ∈ standardFiles, '$' ∉ file.toList := by decide
  have hname : ProfileFile.expandName w.environment file = file := by
    simp only [ProfileFile.expandName, String.ofList_toList, hh, ProfileFile.expandTilde_none,
      ProfileFile.expandReferences_of_not_mem _ _ _ (hplain file hm)]
  unfold ProfileFile.readSections Files.read
  dsimp only
  rw [hname, hf file hm]

theorem readSections_keyedWorld (s : String) : ∀ file ∈ standardFiles,
    ProfileFile.readSections (keyedWorld s) file = .ok none :=
  readSections_of_homeless rfl (List.forall_mem_cons.mpr ⟨rfl, List.forall_mem_singleton.mpr rfl⟩)

theorem keyedWorld_twin {s s' : String} (hs : Text.isBlank s = false)
    (hs' : Text.isBlank s' = false) : World.Twin none (keyedWorld s) (keyedWorld s') := by
  have hname : Text.lower "AWS_AUTOCONFIG_CREDENTIALS__SECRET_KEY" = secretVariable := by decide
  refine ⟨?_, .ok .nil, ?_, ?_, ?_, rfl, rfl, rfl⟩
  · exact .cons ⟨rfl, .inl rfl⟩
      (.cons ⟨rfl, .inr (.inl ⟨hname, s, s', rfl, rfl, hs, hs'⟩)⟩ .nil)
  · intro name hn
    cases hn
  · intro name hn
    cases hn
  · intro file hf
    exact (readSections_keyedWorld s file hf).trans (readSections_keyedWorld s' file hf).symm

/-- Two secret texts in the environment are accepted, and neither is told. -/
theorem run_hides_iff_keys :
    request ["describe"] = .ok (.run false .describe none) ∧
      World.Twin none (keyedWorld "first-secret") (keyedWorld "second-secret") ∧
      (keyedWorld "first-secret").clients.SpeakInWords ∧
      (run ["describe"] (keyedWorld "first-secret")).1 =
        (run ["describe"] (keyedWorld "second-secret")).1 ∧
      (run ["describe"] (keyedWorld "first-secret")).1.output =
        "StaticCredentialsProvider(access_key_id='AKIADEV')\n" := by
  have ha : request ["describe"] = .ok (.run false .describe none) := rfl
  have h : World.Twin none (keyedWorld "first-secret") (keyedWorld "second-secret") :=
    keyedWorld_twin (by decide) (by decide)
  have hremarks : (keyedWorld "first-secret").secretRemarks none =
      (keyedWorld "second-secret").secretRemarks none := rfl
  have hw : (keyedWorld "first-secret").clients.SpeakInWords := ClientRules.usual_speakInWords
  exact ⟨ha, h, hw, ((run_hides_iff ha h hw).mpr hremarks).1, by decide +kernel⟩

/-- Config files that give a number as the secret key. -/
def numberFile : String := "credentials:\n  secret_key: 12345678\n"

def otherNumberFile : String := "credentials:\n  secret_key: 87654321\n"

def configWorld (content : String) : World where
  files := [(["aws.yml"], .file (asciiBytes content))]

theorem isFile_configWorld (content : String) :
    (configWorld content).files.isFile (Path.ofText "aws.yml").text = true := rfl

theorem readSections_configWorld (content : String) : ∀ file ∈ standardFiles,
    ProfileFile.readSections (configWorld content) file = .ok none :=
  readSections_of_homeless rfl (List.forall_mem_cons.mpr ⟨rfl, List.forall_mem_singleton.mpr rfl⟩)

def secretMapping (n : Int) : Mapping :=
  [(.text "credentials", .map [(.text "secret_key", .int n)])]

def secretNode (digits : String) : Yaml.Node :=
  .mapping .mapping
    [(.scalar .text ("credentials".toList.map Char.toNat), .mapping .mapping
      [(.scalar .text ("secret_key".toList.map Char.toNat),
        .scalar .int (digits.toList.map Char.toNat))])]

theorem readDocument_numberFile :
    Yaml.readDocument numberFile.toList = .ok (some (secretNode "12345678")) := by
  cbv

theorem readDocument_otherNumberFile :
    Yaml.readDocument otherNumberFile.toList = .ok (some (secretNode "87654321")) := by
  cbv

theorem writtenMapping_configWorld {content digits : String} {n : Int}
    (hchars : Yaml.readChars (asciiBytes content) = .ok content.toList)
    (hdocument : Yaml.readDocument content.toList = .ok (some (secretNode digits)))
    (hvalue : ((secretNode digits).value (content.toList.length + 4) 0).mapError Prod.snd =
      .ok (.map (secretMapping n))) :
    writtenMapping (Path.ofText "aws.yml") (configWorld content) = .ok (secretMapping n) := by
  have hpath : (Path.ofText "aws.yml").expandHome (configWorld content).environment.home =
      some (Path.ofText "aws.yml") := rfl
  have hbytes : bytesOf (configWorld content).files (Path.ofText "aws.yml").text =
      .ok (asciiBytes content) := rfl
  have hread : Yaml.read (asciiBytes content) = .ok (.map (secretMapping n)) := by
    rw [Yaml.read, hchars]
    dsimp only [bind, Except.bind]
    rw [hdocument]
    exact hvalue
  rw [writtenMapping, hpath]
  dsimp only
  rw [hbytes]
  dsimp only [bind, Except.bind]
  rw [hread]
  rfl

theorem writtenMapping_numberFile :
    writtenMapping (Path.ofText "aws.yml") (configWorld numberFile) =
      .ok (secretMapping 12345678) :=
  writtenMapping_configWorld rfl readDocument_numberFile rfl

theorem writtenMapping_otherNumberFile :
    writtenMapping (Path.ofText "aws.yml") (configWorld otherNumberFile) =
      .ok (secretMapping 87654321) :=
  writtenMapping_configWorld rfl readDocument_otherNumberFile rfl

theorem run_configWorld {content : String} {n : Int}
    (h : writtenMapping (Path.ofText "aws.yml") (configWorld content) = .ok (secretMapping n)) :
    (run ["describe", "--config", "aws.yml"] (configWorld content)).1 =
      ⟨1, "", complaintLine (problemsMessage fileSettingsTitle
        [⟨["credentials", "secret_key"], .text, .int n⟩]), false, none⟩ := by
  have ha : request ["describe", "--config", "aws.yml"] =
      .ok (.run false .describe (some "aws.yml")) := rfl
  have hgathered : gatherSettings (some (Path.ofText "aws.yml")) (configWorld content) =
      .ok (secretMapping n) := by
    have hvariables : fileVariables (configWorld content) = .ok [] := rfl
    unfold gatherSettings
    rw [hvariables]
    dsimp only [bind, Except.bind]
    rw [configFileSettings_eq, h]
    rfl
  have hfound : ((some "aws.yml").all fun name =>
      (configWorld content).files.isFile (Path.ofText name).text) = true :=
    isFile_configWorld content
  rw [run_describe ha, describe_of_found hfound, Option.map_some, hgathered]
  rfl

/-- Of two numbers that are no secret keys, each is told. -/
theorem not_hides_number :
    request ["describe", "--config", "aws.yml"] =
        .ok (.run false .describe (some "aws.yml")) ∧
      World.Twin (some "aws.yml") (configWorld numberFile) (configWorld otherNumberFile) ∧
      (run ["describe", "--config", "aws.yml"] (configWorld numberFile)).1.complaint =
        "Error: 1 validation error for FileSettings\ncredentials.secret_key\n" ++
          "  Input should be a valid string " ++
          "[type=string_type, input_value=12345678, input_type=int]\n" ∧
      (run ["describe", "--config", "aws.yml"] (configWorld otherNumberFile)).1.complaint =
        "Error: 1 validation error for FileSettings\ncredentials.secret_key\n" ++
          "  Input should be a valid string " ++
          "[type=string_type, input_value=87654321, input_type=int]\n" := by
  have htwin : Parallel Mapping.TwinSections
      (writtenMapping (Path.ofText "aws.yml") (configWorld numberFile))
      (writtenMapping (Path.ofText "aws.yml") (configWorld otherNumberFile)) := by
    rw [writtenMapping_numberFile, writtenMapping_otherNumberFile]
    have hsecret : Value.TwinAt secretPart [] (.text "secret_key") (.int 12345678)
        (.int 87654321) := .inr ⟨spells_secretPart, .inr ⟨rfl, rfl⟩⟩
    refine .ok (.cons ⟨rfl, twinAt_section (.inr ⟨_, _, rfl, rfl, ?_⟩)⟩ .nil)
    exact .cons ⟨rfl, hsecret⟩ .nil
  refine ⟨rfl, ?_, ?_, ?_⟩
  · refine ⟨.nil, .ok .nil, ?_, ?_, ?_, rfl, rfl, rfl⟩
    · rintro _ ⟨⟩
      rw [isFile_configWorld, isFile_configWorld]
    · rintro _ ⟨⟩
      exact htwin
    · intro file hf
      exact (readSections_configWorld _ file hf).trans (readSections_configWorld _ file hf).symm
  · rw [run_configWorld writtenMapping_numberFile]
    decide +kernel
  · rw [run_configWorld writtenMapping_otherNumberFile]
    decide +kernel

end CommandLine

end CloudCredentials
