import CloudCredentials.Proofs.Closing
import CloudCredentials.Proofs.ServingSource

/-!
# Who signs a validation

A validation names the provider that hands out credentials when it is asked first. The call for the
account is signed in a session, and the session asks for credentials of its own: once when it loads
its keys, and a second time when these are due already. A chain can be served by another member each
time. So the named provider has signed the call if and only if the chain gets as far in the ask that
the session signs with as it has got in the first one.
-/

namespace CloudCredentials

open CommandLine

/-! ### The credentials that a session signs with -/

/-- Keys that can be used now without asking for others. -/
def SessionKeys.IsLasting (now : Int) : SessionKeys → Prop
  | .fixed _ => True
  | .leased lease => lease.need now = .ok .unneeded

namespace Session

/-- How a session that holds nothing comes by the credentials that it signs with. It asks the
provider and takes what it gets, unless that is due already. Then it asks again and takes what it
gets now, as long as that is not past; when the ask fails, and there is time, it stays with what it
has. The place is that of the source that serves the ask. -/
inductive Signing (p : Provider) (w : World) : Nat → Credentials → Provider × World → Prop
  | loaded {c : Credentials} {held : SessionKeys} {x : Provider × World}
    (ha : p.resolve w = (.ok c, x)) (hk : keysOf c = .ok held) (hl : held.IsLasting x.2.clock) :
    Signing p w (p.place w) c x
  | passedOver {c : Credentials} {lease : Lease} {x y : Provider × World} {failure : Failure}
    (ha : p.resolve w = (.ok c, x)) (hk : keysOf c = .ok (.leased lease))
    (hn : lease.need x.2.clock = .ok .advisory) (hf : x.1.resolve x.2 = (.error failure, y)) :
    Signing p w (p.place w) c y
  | renewed {c d : Credentials} {lease : Lease} {need : Need} {x y : Provider × World}
    (ha : p.resolve w = (.ok c, x)) (hk : keysOf c = .ok (.leased lease))
    (hn : lease.need x.2.clock = .ok need) (hu : need ≠ .unneeded)
    (hr : x.1.resolve x.2 = (.ok d, y)) {t : Time.Timestamp}
    (ht : (written (d.expiration.getD (.ofInstant (y.2.clock + recheck)))).read = .ok t)
    (hl : t.IsAhead y.2.clock) :
    Signing p w (x.1.place x.2) d y

theorem useHeld_signing {p : Provider} {w u : World} {c : Credentials} {held : SessionKeys}
    {keys : Keys} {s s' : Session} {x : Provider × World} {p' : Provider}
    (ha : p.resolve w = (.ok c, x)) (hk : keysOf c = .ok held)
    (hu : useHeld Provider.resolve held s x.1 x.2 = (.ok keys, s', p', u)) :
    ∃ place signer, Signing p w place signer (p', u) ∧ signer.keys = keys := by
  rcases keysOf_ok hk with ⟨_, rfl⟩ | ⟨_, t, _, _, rfl⟩
  · cases hu
    exact ⟨_, c, .loaded ha hk trivial, rfl⟩
  · have husing := Lease.use_using method (fun (s : Provider × World) => s.2.clock)
      (fetch Provider.resolve) ⟨some c.keys, some t⟩ x
    unfold useHeld at hu
    dsimp only at hu
    rcases hl : Lease.use method (fun (s : Provider × World) => s.2.clock)
      (fetch Provider.resolve) ⟨some c.keys, some t⟩ x with ⟨answer, lease, q, v⟩
    rw [hl] at hu husing
    cases hu
    generalize hr : (Except.ok keys, lease, (q, v)) = r at husing
    cases husing with
    | unclear _ | failed _ _ | refused _ _ _ _ => cases hr
    | kept hn =>
      cases hr
      exact ⟨_, c, .loaded ha hk hn, rfl⟩
    | passedOver hn hf =>
      cases hr
      exact ⟨_, c, .passedOver ha hk hn (fetch_error hf), rfl⟩
    | renewed hn hne hf hp hread hahead =>
      cases hr
      obtain ⟨d, hd, rfl⟩ := fetch_ok hf
      cases hp
      exact ⟨_, d, .renewed ha hk hn hne hd hread hahead, rfl⟩

theorem Signing.isGenuine {p : Provider} {w : World} {place : Nat} {c : Credentials}
    {y : Provider × World} (h : Signing p w place c y)
    (hg : Provider.Each Source.IsGenuine (p, w)) : Provider.Each Source.IsGenuine y := by
  have hstep := resolve_isGenuine hg
  cases h with
  | loaded ha _ _ =>
    rwa [ha] at hstep
  | passedOver ha _ _ hr | renewed ha _ _ _ hr _ _ =>
    rw [ha] at hstep
    have hagain := resolve_isGenuine hstep
    rwa [hr] at hagain

theorem Signing.provider {p : Provider} {w : World} {place : Nat} {c : Credentials}
    {y : Provider × World} (h : Signing p w place c y)
    (hg : Provider.Each Source.IsGenuine (p, w)) :
    ∃ name, c.provider = some name ∧ p.names[place]? = some name := by
  cases h with
  | loaded ha _ _ | passedOver ha _ _ _ => exact Provider.resolve_provider hg ha
  | renewed ha _ _ _ hr _ _ =>
    have hstep := resolve_isGenuine hg
    have hnames := p.resolve_names w
    rw [ha] at hstep hnames
    rw [← hnames]
    exact Provider.resolve_provider hstep hr

theorem Signing.place_leaf {s : Source} {w : World} {place : Nat} {c : Credentials}
    {y : Provider × World} (h : Signing (.leaf s) w place c y) : place = 0 := by
  cases h with
  | loaded _ _ _ | passedOver _ _ _ _ => rfl
  | @renewed _ _ _ _ x _ ha _ _ _ _ _ _ _ =>
    have hx : _ = x.1 := congrArg (·.2.1) ha
    rw [← hx]
    rfl

/-- A session that holds nothing and gets an answer has signed the call for it with the keys of
one ask. -/
theorem account_signing {s s' : Session} {p p' : Provider} {w v : World} {a : Account}
    (hs : s.held = none) (h : s.account Provider.resolve p w = (.ok a, s', p', v)) :
    ∃ place signer endpoint u, Signing p w place signer (p', u) ∧
      requestIdentity ⟨endpoint, .signed signer.keys.accessKey⟩ u = (.ok a, v) := by
  have hheld := clientPlan_held s w
  unfold account at h
  rcases hc : clientPlan s w with ⟨failure | plan, s₁⟩
  · rw [hc] at h
    cases h
  rw [hc] at h hheld
  dsimp only at h
  rcases hl : load Provider.resolve s₁ p w with ⟨failure | held, s₂, p₂, w₂⟩
  · rw [hl] at h
    cases h
  rw [hl] at h
  dsimp only at h
  obtain ⟨c, ha, hk⟩ := load_ok (hheld.trans hs) hl
  cases he : plan.endpoint w₂ with
  | error failure =>
    rw [he] at h
    cases h
  | ok endpoint =>
    rw [he] at h
    dsimp only at h
    rcases hu : useHeld Provider.resolve held s₂ p₂ w₂ with ⟨failure | keys, s₃, p₃, w₃⟩
    · rw [hu] at h
      cases h
    rw [hu] at h
    obtain ⟨place, signer, hsigning, rfl⟩ := useHeld_signing (x := (p₂, w₂)) ha hk hu
    dsimp only at h
    rcases hr : requestIdentity ⟨endpoint, .signed signer.keys.accessKey⟩ w₃ with ⟨answer, u⟩
    rw [hr] at h
    cases h
    exact ⟨place, signer, endpoint, w₃, hsigning, hr⟩

end Session

/-! ### What a validation reports -/

theorem Source.IsGenuine.isOwn {s : Source} {w : World} (h : s.IsGenuine w) : s.IsOwn := by
  cases s <;> first | exact h.elim | trivial

theorem Provider.close_world {p : Provider} (h : p.IsOwn) (w : World) : w = (p.close w).2 :=
  (Provider.close_sameClosed h.sameClosed w).2.symm

namespace CommandLine

/-- The first line of what is reported names a provider. -/
def Report.Names (r : Report) (name : String) : Prop :=
  ∃ rest, r.output = "✓ Credentials from " ++ name ++ " are valid\n" ++ rest

/-- A validation that has ended well, stage by stage: a provider is configured, it is asked, and a
session of its own signs the call for the account with the keys of an ask. -/
structure Validation (config : Option String) (w : World) where
  provider : Provider
  region : RegionProvider
  selected : World
  configured : configured config w = (.ok (provider, region), selected)
  first : Credentials
  asked : Provider × World
  resolved : provider.resolve selected = (.ok first, asked)
  session : Session
  opened : World
  created : Session.create (some region) asked.2 = (.ok session, opened)
  place : Nat
  signer : Credentials
  signed : Provider × World
  signing : Session.Signing asked.1 opened place signer signed
  endpoint : String
  account : Session.Account
  ended : World
  identified : Session.requestIdentity ⟨endpoint, .signed signer.keys.accessKey⟩ signed.2 =
    (.ok account, ended)

namespace Validation

variable {config : Option String} {w : World} (r : Validation config w)

theorem isGenuine : Provider.Each Source.IsGenuine (r.provider, r.selected) :=
  (configured_isGenuine r.configured).2

theorem asked_isGenuine : Provider.Each Source.IsGenuine (r.asked.1, r.opened) := by
  have hstep := resolve_isGenuine r.isGenuine
  rw [r.resolved] at hstep
  exact fun s hs => (hstep s hs).at_world r.opened

theorem name_word {name : String} (h : name ∈ r.provider.names) :
    ' ' ∉ name.toList ∧ Text.escapeChar ∉ name.toList := by
  obtain ⟨s, hs, rfl⟩ := List.mem_map.mp h
  exact (r.isGenuine s hs).name_word

theorem signer_named : ∃ name, r.signer.provider = some name ∧
    r.provider.names[r.place]? = some name := by
  have hnames := r.provider.resolve_names r.selected
  rw [r.resolved] at hnames
  rw [← hnames]
  exact r.signing.provider r.asked_isGenuine

end Validation

theorem accountOf_ok {provider p : Provider} {region : RegionProvider} {w v : World}
    {a : Session.Account} (h : accountOf provider region w = (.ok a, p, v)) :
    ∃ session opened place signer endpoint u,
      Session.create (some region) w = (.ok session, opened) ∧
        Session.Signing provider opened place signer (p, u) ∧
        Session.requestIdentity ⟨endpoint, .signed signer.keys.accessKey⟩ u = (.ok a, v) := by
  unfold accountOf at h
  rcases hc : Session.create (some region) w with ⟨failure | session, opened⟩
  · rw [hc] at h
    cases h
  rw [hc] at h
  dsimp only at h
  rcases ha : session.account Provider.resolve provider opened with ⟨answer, s, q, u⟩
  rw [ha] at h
  cases h
  obtain ⟨place, signer, endpoint, x, hsigning, hi⟩ := Session.account_signing (create_held hc) ha
  exact ⟨session, opened, place, signer, endpoint, x, rfl, hsigning, hi⟩

/-- A validation that reports an account has gone through all stages, and closing the provider in
the end changes nothing more. -/
theorem validate_ok {config : Option String} {w v : World} {output : String}
    (h : validate config w = (.ok output, v)) :
    ∃ r : Validation config w, output = validationText r.first r.account ∧ v = r.ended := by
  unfold validate at h
  rcases hc : configured config w with ⟨failure | ⟨provider, region⟩, selected⟩
  · rw [hc] at h
    cases h
  rw [hc] at h
  dsimp only at h
  rcases hr : provider.resolve selected with ⟨failure | first, asked⟩
  · rw [hr] at h
    cases h
  rw [hr] at h
  dsimp only at h
  rcases ha : accountOf asked.1 region asked.2 with ⟨failure | account, p, ended⟩
  · rw [ha] at h
    cases h
  rw [ha] at h
  obtain ⟨houtput, hclosed⟩ := Prod.mk.inj h
  obtain ⟨session, opened, place, signer, endpoint, u, hs, hsigning, hi⟩ := accountOf_ok ha
  let r : Validation config w :=
    { provider, region, first, selected, asked, session, opened, place, signer, endpoint, account,
      ended, signed := (p, u), configured := hc, resolved := hr, created := hs, signing := hsigning,
      identified := hi }
  have hgenuine := hsigning.isGenuine r.asked_isGenuine
  have hworld := Provider.close_world (fun s hs => (hgenuine s hs).isOwn) ended
  exact ⟨r, (Except.ok.inj houtput).symm, hclosed.symm.trans hworld.symm⟩

theorem validationText_names {c : Credentials} {a : Session.Account} {name : String}
    (hc : c.provider = some name) (hn : Text.escapeChar ∉ name.toList) :
    ∃ rest, validationText c a = "✓ Credentials from " ++ name ++ " are valid\n" ++ rest := by
  unfold validationText
  simp only [hc, Option.getD_some, String.append_assoc]
  rw [Text.withoutStyles_append (by decide), Text.withoutStyles_append hn,
    Text.withoutStyles_append (by decide)]
  exact ⟨_, rfl⟩

/-- A first line names one provider only, among those whose names are words. -/
theorem Report.Names.unique {r : Report} {m n : String} (hm : r.Names m) (hn : r.Names n)
    (hbm : ' ' ∉ m.toList) (hbn : ' ' ∉ n.toList) : m = n := by
  obtain ⟨rest, hm⟩ := hm
  obtain ⟨rest', hn⟩ := hn
  have hlists := congrArg String.toList (hm.symm.trans hn)
  simp only [String.toList_append, List.append_assoc] at hlists
  have hwords := congrArg (List.takeWhile (· ≠ ' ')) (List.append_cancel_left hlists)
  have word {name : String} (hb : ' ' ∉ name.toList) (rest : List Char) :
      (name.toList ++ (" are valid\n".toList ++ rest)).takeWhile (· ≠ ' ') = name.toList := by
    have hkept : ∀ c ∈ name.toList, decide (c ≠ ' ') = true := fun c hc =>
      decide_eq_true fun e => hb (e ▸ hc)
    rw [List.takeWhile_append_of_pos hkept]
    exact List.append_nil _
  rw [word hbm, word hbn] at hwords
  exact String.toList_inj.mp hwords

theorem run_ok {arguments : List String} {debug : Bool} {config : Option String}
    (h : request arguments = .ok (.run debug .validate config)) {w : World}
    (he : (run arguments w).1.exitCode = 0) :
    ∃ r : Validation config w, (run arguments w).2 = r.ended ∧
      (run arguments w).1.output = validationText r.first r.account := by
  have hrun : run arguments w = (conclude isExpectedInValidation debug (validate config w).1,
      (validate config w).2) := by
    rw [run, h]
    rfl
  rw [hrun] at he ⊢
  rcases hv : validate config w with ⟨failure | output, v⟩
  · rw [hv] at he
    unfold conclude at he
    dsimp only at he
    split at he
    · cases he
    · cases he
  · obtain ⟨r, houtput, hended⟩ := validate_ok hv
    exact ⟨r, hended, houtput⟩

/-- The report of a validation names the source that served the first ask. It names the one that
has signed if and only if that one stands at the same place. -/
theorem Validation.names_iff {config : Option String} {w : World} (r : Validation config w)
    {report : Report} (h : report.output = validationText r.first r.account) :
    ∃ name signer, r.provider.names[r.provider.place r.selected]? = some name ∧
      r.signer.provider = some signer ∧ r.provider.names[r.place]? = some signer ∧
      report.Names name ∧
      (report.Names signer ↔ r.place = r.provider.place r.selected) := by
  obtain ⟨name, hfirst, hname⟩ := Provider.resolve_provider r.isGenuine r.resolved
  obtain ⟨signer, hprovider, hsigner⟩ := r.signer_named
  obtain ⟨hblank, hescape⟩ := r.name_word (List.mem_of_getElem? hname)
  obtain ⟨hblank', _⟩ := r.name_word (List.mem_of_getElem? hsigner)
  have hnames : report.Names name := by
    obtain ⟨rest, htext⟩ := validationText_names (a := r.account) hfirst hescape
    exact ⟨rest, h.trans htext⟩
  refine ⟨name, signer, hname, hprovider, hsigner, hnames, ?_⟩
  -- the names differ from each other, so that the same name is the same place
  constructor
  · intro hs
    obtain rfl := hs.unique hnames hblank' hblank
    obtain ⟨hlength, _⟩ := List.getElem?_eq_some_iff.mp hsigner
    exact (List.getElem?_inj hlength (configured_nodup r.configured)).mp
      (hsigner.trans hname.symm)
  · intro hplace
    rw [hplace, hname] at hsigner
    rwa [← Option.some.inj hsigner]

/-- When one source alone is configured it is named, and it has signed. -/
theorem run_names_signer_of_leaf {arguments : List String} {debug : Bool} {config : Option String}
    (h : request arguments = .ok (.run debug .validate config)) {w u : World} {s : Source}
    {region : RegionProvider} (hc : configured config w = (.ok (.leaf s, region), u))
    (he : (run arguments w).1.exitCode = 0) :
    ∃ r : Validation config w, (run arguments w).2 = r.ended ∧ r.signer.provider = some s.name ∧
      (run arguments w).1.Names s.name := by
  obtain ⟨r, hended, houtput⟩ := run_ok h he
  have hmade := r.configured
  rw [hc] at hmade
  obtain ⟨hleaf, hselected⟩ := Prod.mk.inj hmade
  obtain ⟨hleaf, _⟩ := Prod.mk.inj (Except.ok.inj hleaf)
  have hasked : ∃ s', r.asked.1 = .leaf s' := by
    have hr := r.resolved
    rw [← hleaf] at hr
    exact ⟨_, (congrArg (·.2.1) hr).symm⟩
  obtain ⟨s', hasked⟩ := hasked
  have hplace : r.place = 0 := (hasked ▸ r.signing).place_leaf
  have hfirst : r.provider.place r.selected = 0 := by
    rw [← hleaf]
    rfl
  obtain ⟨name, signer, _, hprovider, hsigner, _, hnames⟩ := r.names_iff houtput
  rw [hplace, ← hleaf] at hsigner
  cases hsigner
  exact ⟨r, hended, hprovider, hnames.mpr (hplace.trans hfirst.symm)⟩

/-- A validation that exits well names the source that served the first ask. The last call is the
one for the account that is reported; it is signed with the keys of the ask that the session signs
with. The source that served that one is named if and only if it stands at the same place: as many
sources were asked in vain before it as in the first ask. -/
theorem run_names_signer_iff {arguments : List String} {debug : Bool} {config : Option String}
    (h : request arguments = .ok (.run debug .validate config)) {w : World}
    (he : (run arguments w).1.exitCode = 0) :
    ∃ r : Validation config w, (run arguments w).2 = r.ended ∧
      (run arguments w).1.output = validationText r.first r.account ∧
      ∃ name signer, r.provider.names[r.provider.place r.selected]? = some name ∧
        r.signer.provider = some signer ∧ r.provider.names[r.place]? = some signer ∧
        (run arguments w).1.Names name ∧
        ((run arguments w).1.Names signer ↔ r.place = r.provider.place r.selected) := by
  obtain ⟨r, hended, houtput⟩ := run_ok h he
  exact ⟨r, hended, houtput, r.names_iff houtput⟩

/-! ### A role that comes late -/

/-- A machine that has no role when it is asked first, and a profile with keys. -/
def lateRole : World where
  environment := [("AWS_AUTOCONFIG_CREDENTIALS__INSTANCE_PROFILE", "true"),
    ("AWS_AUTOCONFIG_CREDENTIALS__PROFILE__NAME", "dev"), ("AWS_REGION", "eu-west-1"),
    ("HOME", "home")]
  files := [(["home"], .directory), (["home", ".aws"], .directory),
    (["home", ".aws", "credentials"], .file
      (asciiBytes "[dev]\naws_access_key_id = AKIADEV\naws_secret_access_key = s"))]
  metadata := [.ok {}, .ok {
    fields := [("role_name", .text "app"), ("access_key", .text "ASIAROLE"),
      ("secret_key", .text "r"), ("token", .text "t")]
    expiresIn := some Time.hour }]

def lateSettings : Settings where
  credentials := { instanceProfile := true, profile := some { name := some "dev" } }

def machineOrDev : Provider :=
  .chain [.leaf .ofInstance, .leaf (.profile ⟨⟨"dev", none⟩, none⟩)]

/-- The configured provider without a config file, from the settings. -/
theorem configured_of_settings {w : World} {settings : Settings}
    (h : (settingsFrom settingsTitle none w).toOption = some settings) :
    configured none w =
      let region := RegionProvider.ofProperties settings.region
      let (provider, v) :=
        Selection.resolve none region.get unsignedFactory settings.credentials w
      (provider.map (·, region), v) := by
  have hload : loadSettings none w = (settingsFrom settingsTitle none w, w) := rfl
  cases he : settingsFrom settingsTitle none w with
  | error failure =>
    rw [he] at h
    cases h
  | ok found =>
    rw [he] at h hload
    cases h
    unfold configured
    rw [hload]

theorem configured_lateRole :
    configured none lateRole = (.ok (machineOrDev, .lookup none), lateRole) := by
  have hsettings : (settingsFrom settingsTitle none lateRole).toOption = some lateSettings := by
    decide +kernel
  exact configured_of_settings hsettings

def roleKeys : Credentials :=
  ⟨⟨.text "ASIAROLE", .text "r", .text "t"⟩, some (.ofInstant Time.hour), some InstanceProfile.name⟩

/-- What the first ask leaves. -/
def askedLate : Provider × World := (machineOrDev.resolve lateRole).2

/-- The world in which the session asks. -/
def openedLate : World := (Session.create (some (.lookup none)) askedLate.2).2

set_option maxRecDepth 20000 in
theorem signing_lateRole {place : Nat} {c : Credentials} {y : Provider × World}
    (h : Session.Signing askedLate.1 openedLate place c y) : place = 0 ∧ c = roleKeys := by
  have hask : (askedLate.1.resolve openedLate).1 = .ok roleKeys := rfl
  have hplace : askedLate.1.place openedLate = 0 := rfl
  have first {d : Credentials} {x : Provider × World}
      (ha : askedLate.1.resolve openedLate = (.ok d, x)) : d = roleKeys :=
    Except.ok.inj ((congrArg Prod.fst ha).symm.trans hask)
  cases h with
  | loaded ha _ _ | passedOver ha _ _ _ => exact ⟨hplace, first ha⟩
  | @renewed d _ lease need x _ ha hk hn hu _ _ _ _ =>
    -- keys that live for an hour are not due
    obtain rfl := first ha
    have hclock : x.2.clock = 0 := by
      rw [← congrArg (·.2.2.clock) ha]
      rfl
    have hlease : Session.keysOf roleKeys =
      .ok (.leased ⟨some roleKeys.keys, some (.ofInstant Time.hour)⟩) := rfl
    cases hk.symm.trans hlease
    rw [hclock] at hn
    cases hn
    exact absurd rfl hu

set_option maxRecDepth 20000 in
theorem Validation.places_lateRole (r : Validation none lateRole) :
    r.provider.place r.selected = 1 ∧ r.place = 0 ∧ r.signer = roleKeys := by
  obtain ⟨hmade, hselected⟩ := Prod.mk.inj (r.configured.symm.trans configured_lateRole)
  obtain ⟨hprovider, hregion⟩ := Prod.mk.inj (Except.ok.inj hmade)
  have hasked : r.asked = askedLate := by
    have h := congrArg Prod.snd r.resolved
    rw [hprovider, hselected] at h
    exact h.symm
  have hopened : r.opened = openedLate := by
    have h := congrArg Prod.snd r.created
    rw [hregion, hasked] at h
    exact h.symm
  have hsigning := r.signing
  rw [hasked, hopened] at hsigning
  have hfirst : machineOrDev.place lateRole = 1 := rfl
  rw [hprovider, hselected]
  exact ⟨hfirst, signing_lateRole hsigning⟩

theorem exitCode_lateRole : (run ["validate"] lateRole).1.exitCode = 0 := by decide +kernel

/-- A validation that exits well, with its stages. -/
theorem run_names_signer_iff_lateRole :
    request ["validate"] = .ok (.run false .validate none) ∧
      (run ["validate"] lateRole).1.exitCode = 0 ∧
      ∃ r : Validation none lateRole, (run ["validate"] lateRole).2 = r.ended ∧
        ∃ name, r.provider.names[r.provider.place r.selected]? = some name ∧
          (run ["validate"] lateRole).1.Names name := by
  have h : request ["validate"] = .ok (.run false .validate none) := rfl
  obtain ⟨r, hended, _, name, _, hname, _, _, hnames, _⟩ :=
    run_names_signer_iff h exitCode_lateRole
  exact ⟨h, exitCode_lateRole, r, hended, name, hname, hnames⟩

/-- The profile is named, and the keys of the role have signed the call. -/
theorem not_names_signer_lateRole :
    request ["validate"] = .ok (.run false .validate none) ∧
      (run ["validate"] lateRole).1.exitCode = 0 ∧
      (run ["validate"] lateRole).2.calls =
        [.metadata, .metadata, .callerIdentity ⟨"eu-west-1", .signed (.text "ASIAROLE")⟩] ∧
      (run ["validate"] lateRole).1.Names NamedProfile.name ∧
      ∃ r : Validation none lateRole, (run ["validate"] lateRole).2 = r.ended ∧
        r.signer.keys.accessKey = .text "ASIAROLE" ∧
        r.signer.provider = some InstanceProfile.name ∧
        ¬ (run ["validate"] lateRole).1.Names InstanceProfile.name := by
  have hcalls : (run ["validate"] lateRole).2.calls =
      [.metadata, .metadata, .callerIdentity ⟨"eu-west-1", .signed (.text "ASIAROLE")⟩] := by
    decide +kernel
  obtain ⟨r, hended, houtput⟩ := run_ok rfl exitCode_lateRole
  obtain ⟨hfirst, hplace, hkeys⟩ := r.places_lateRole
  obtain ⟨hmade, _⟩ := Prod.mk.inj (r.configured.symm.trans configured_lateRole)
  obtain ⟨hprovider, _⟩ := Prod.mk.inj (Except.ok.inj hmade)
  obtain ⟨name, signer, hname, hsigner, _, hnames, hiff⟩ := r.names_iff houtput
  rw [hfirst, hprovider] at hname
  rw [hkeys] at hsigner
  cases hname
  cases hsigner
  have hother : ¬ (run ["validate"] lateRole).1.Names InstanceProfile.name := fun hn => by
    have hsame := hiff.mp hn
    rw [hplace, hfirst] at hsame
    cases hsame
  refine ⟨rfl, exitCode_lateRole, hcalls, hnames, r, hended, ?_, ?_, hother⟩
  · rw [hkeys]
    rfl
  · rw [hkeys]
    rfl

end CommandLine

end CloudCredentials
