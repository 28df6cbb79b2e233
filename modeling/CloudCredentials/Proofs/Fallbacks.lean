import CloudCredentials.Proofs.AlikeProviders
import CloudCredentials.Proofs.SelectedSources

/-!
# Adding fallbacks

A provider to which further sources are added at the end answers as before, for as long as the one
without them has answered with credentials: the sources that were there are asked in the same way,
and those after them are not reached.
-/

namespace CloudCredentials

/-! ### Worlds with different pasts -/

/-- Two worlds are the same but for what was called and logged before. -/
def World.Agrees (w w' : World) : Prop := w' = { w with calls := w'.calls, log := w'.log }

/-- Every secret is like itself only, and every file is open. -/
def Likeness.exact : Likeness := ⟨Eq, fun _ => True, fun _ => rfl, fun h => congrArg _ h⟩

theorem MetadataAnswer.Alike.refl {L : Likeness} (a : MetadataAnswer) : a.Alike L a :=
  ⟨.refl fun _ _ => .of_eq _, rfl⟩

theorem Files.Alike.refl (f : Files) : f.Alike .exact f := by
  have section_refl (o : ProfileFile.Section) : ProfileFile.SectionAlike .exact o o :=
    Fields.refl fun _ _ => ⟨.of_eq _, fun _ => trivial⟩
  refine ⟨fun _ => rfl, fun name => .refl (fun content => ?_) _⟩
  cases ProfileFile.parse content with
  | none => exact .none
  | some sections => exact .some (Fields.refl fun _ _ => section_refl _)

namespace World

/-- The two worlds will do the same from now on. -/
abbrev Matches (w w' : World) : Prop := World.Alike .exact w w' w w'

variable {w w' : World}

theorem Agrees.matches (h : w.Agrees w') : w.Matches w' := by
  rw [h]
  exact {
    environment := rfl
    tokenFile := fun _ => trivial
    files := .refl _
    clock := rfl
    metadata := List.forall₂_same.mpr fun _ _ => .refl .refl _
    roles := List.forall₂_same.mpr fun _ _ => .refl .refl _
    identity := rfl
    looks := List.forall₂_same.mpr fun _ _ => .refl _
    renewals := List.forall₂_same.mpr fun _ _ => .refl .refl _
    clients := rfl
    webIdentity := rfl
    calls := ⟨[], (List.append_nil _).symm, (List.append_nil _).symm⟩
    log := ⟨[], (List.append_nil _).symm, (List.append_nil _).symm⟩ }

theorem Matches.record (h : w.Matches w') (level : Level) (channel : Channel) (text : String) :
    w.Matches (w'.record level channel text) :=
  { h with
    calls := ⟨[], (List.append_nil _).symm, (List.append_nil _).symm⟩
    log := ⟨[], (List.append_nil _).symm, (List.append_nil _).symm⟩ }

theorem Matches.around (h : w.Matches w') (e : Event) : (e.around w).Matches (e.around w') := by
  have now : World.Alike .exact w w' (e.around w) (e.around w') := by
    cases e with
    | advance micros => exact { h with clock := congrArg (· + _) h.clock }
    | environment env => exact { h with environment := rfl, tokenFile := fun _ => trivial }
    | files f => exact { h with files := .refl f }
    | scripts metadata roles =>
      exact { h with
        metadata := List.forall₂_same.mpr fun _ _ => .refl .refl _
        roles := List.forall₂_same.mpr fun _ _ => .refl .refl _ }
    | sdk looks renewals clients =>
      exact { h with
        looks := List.forall₂_same.mpr fun _ _ => .refl _
        renewals := List.forall₂_same.mpr fun _ _ => .refl .refl _
        clients := rfl }
    | support webIdentity => exact { h with webIdentity := rfl }
    | _ => exact h
  exact now.restart

end World

theorem Credentials.Alike.eq {c c' : Credentials} (h : c.Alike .exact c') : c = c' := by
  obtain ⟨⟨a, s, t⟩, e, p⟩ := c
  obtain ⟨⟨a', s', t'⟩, e', p'⟩ := c'
  obtain ⟨⟨rfl, hs, ht⟩, rfl, rfl⟩ := h
  cases hs
  cases ht
  rfl

/-! ### Providers with fallbacks -/

namespace Provider

/-- The second provider is like the first one, or like it with further members at the end. A
provider that was no chain is the first member then. -/
inductive ExtendedBy : Provider → Provider → Prop
  | same {p p' : Provider} (h : p.Alike .exact p') : ExtendedBy p p'
  | first {p p' : Provider} {more : List Provider} (h : p.Alike .exact p') :
    ExtendedBy p (.chain (p' :: more))
  | chain {members members' more : List Provider}
    (h : List.Forall₂ (Provider.Alike .exact) members members') :
    ExtendedBy (.chain members) (.chain (members' ++ more))

end Provider

namespace Provider

variable {p p' : Provider} {w w' : World}

/-- Asking ends in the same way with fallbacks as without, once there are credentials. -/
structure SameEnd (w w' : World) (r r' : Except Failure Credentials × Provider × World) :
    Prop where
  answer : r'.1 = r.1
  provider : ExtendedBy r.2.1 r'.2.1
  world : r.2.2.Matches r'.2.2
  calls : ∃ made, r.2.2.calls = w.calls ++ made ∧ r'.2.2.calls = w'.calls ++ made

/-- A provider that is no chain is asked like the first member of one, which has credentials. -/
theorem resolve_first (hp : p.Alike .exact p') (more : List Provider) (h : w.Matches w')
    {c : Credentials} (hc : (p.resolve w).1 = .ok c) :
    SameEnd w w' (p.resolve w) (resolve (.chain (p' :: more)) w') := by
  -- the chain records its attempt before it asks the first member, and the success after it
  have ha := resolve_alike hp
    (h.record .debug .providers ("Trying provider " ++ Tree.shown Source.behaviour p'))
  rcases hr : p'.resolve (w'.record .debug .providers
    ("Trying provider " ++ Tree.shown Source.behaviour p')) with ⟨answer, q', v'⟩
  rw [hr] at ha
  obtain ⟨ha, hq, hw⟩ := ha
  have hanswer : answer = .ok c := hc ▸ (ha.imp Credentials.Alike.eq).eq.symm
  subst hanswer
  have hchain : resolve (.chain (p' :: more)) w' = (.ok c, .chain (q' :: more),
      v'.record .info .providers ("Got credentials from " ++ Tree.name Source.behaviour q')) := by
    unfold resolve at hr ⊢
    simp only [Tree.ask, Tree.askFirst, hr, Except.mapError]
  rw [hchain]
  exact ⟨hc.symm, .first hq, World.Matches.record hw.restart .., hw.calls⟩

theorem resolve_longer {members members' : List Provider}
    (hm : List.Forall₂ (Provider.Alike .exact) members members') (more : List Provider)
    (h : w.Matches w') {c : Credentials} (hc : (resolve (.chain members) w).1 = .ok c) :
    SameEnd w w' (resolve (.chain members) w) (resolve (.chain (members' ++ more)) w') := by
  have ha := Tree.askFirst_alike Source.behaviour_keeps
    (hm.imp fun _ _ hp => ⟨hp, fun h => resolve_alike hp h⟩) h
  rcases hr : Tree.askFirst Source.behaviour members w with ⟨answer, asked, v⟩
  rcases hr' : Tree.askFirst Source.behaviour members' w' with ⟨answer', asked', v'⟩
  rw [hr, hr'] at ha
  obtain ⟨ha, hm, hw⟩ := ha
  have hanswer : answer = answer' := (ha.imp Credentials.Alike.eq).eq
  dsimp only at hm hw
  subst hanswer
  have hchain : resolve (.chain members) w = (answer.mapError .unavailable, .chain asked, v) := by
    simp only [resolve, Tree.ask, hr]
  rw [hchain] at hc ⊢
  cases answer with
  | error attempts => cases hc
  | ok credentials =>
    have hlonger : resolve (.chain (members' ++ more)) w' =
        (.ok credentials, .chain (asked' ++ more), v') := by
      simp only [resolve, Tree.ask, Tree.askFirst_append, hr', Except.mapError]
    rw [hlonger]
    exact ⟨rfl, .chain hm, hw.restart, hw.calls⟩

theorem resolve_extended (hp : ExtendedBy p p') (h : w.Matches w') {c : Credentials}
    (hc : (p.resolve w).1 = .ok c) : SameEnd w w' (p.resolve w) (p'.resolve w') := by
  cases hp with
  | same hp =>
    obtain ⟨ha, hp, hw⟩ := resolve_alike hp h
    exact ⟨(ha.imp Credentials.Alike.eq).eq.symm, .same hp, hw.restart, hw.calls⟩
  | first hp => exact resolve_first hp _ h hc
  | chain hm => exact resolve_longer hm _ h hc

/-! ### Runs -/

/-- A resolve, or a change of the surroundings of a provider. -/
def IsOrdinary : Event → Prop
  | .tick _ | .close => False
  | _ => True

theorem run_extended {events : List Event} (he : ∀ e ∈ events, IsOrdinary e)
    (hp : ExtendedBy p p') (h : w.Matches w')
    (hok : ∀ answer ∈ answers events (p, w), ∃ c, answer = .ok c) :
    answers events (p', w') = answers events (p, w) ∧
      ∃ made, (run events (p, w)).2.calls = w.calls ++ made ∧
        (run events (p', w')).2.calls = w'.calls ++ made := by
  induction events generalizing p p' w w' with
  | nil => exact ⟨rfl, [], (List.append_nil _).symm, (List.append_nil _).symm⟩
  | cons e rest ih =>
    have hrest : ∀ x ∈ rest, IsOrdinary x := fun x hx => he x (List.mem_cons_of_mem _ hx)
    have hthis : IsOrdinary e := he e List.mem_cons_self
    -- a change of the surroundings is no call
    have around (hstep : ∀ q v, step e (q, v) = (q, e.around v))
        (hcalls : ∀ v : World, (e.around v).calls = v.calls)
        (hanswers : ∀ q v, answers (e :: rest) (q, v) = answers rest (step e (q, v))) :
        answers (e :: rest) (p', w') = answers (e :: rest) (p, w) ∧
          ∃ made, (run (e :: rest) (p, w)).2.calls = w.calls ++ made ∧
            (run (e :: rest) (p', w')).2.calls = w'.calls ++ made := by
      rw [hanswers, hstep] at hok
      have hr := ih hrest hp (h.around e) hok
      rw [hcalls, hcalls] at hr
      rw [run_cons, run_cons, hanswers, hanswers, hstep, hstep]
      exact hr
    cases e with
    | resolve =>
      obtain ⟨c, hc⟩ := hok _ List.mem_cons_self
      obtain ⟨hanswer, hq, hv, made, hmade, hmade'⟩ := resolve_extended hp h hc
      obtain ⟨hanswers, others, hothers, hothers'⟩ := ih hrest hq hv
        fun answer ha => hok answer (List.mem_cons_of_mem _ ha)
      refine ⟨?_, made ++ others, ?_, ?_⟩
      · exact congrArg₂ List.cons hanswer hanswers
      · rw [run_cons]
        exact hothers.trans (by rw [hmade, List.append_assoc])
      · rw [run_cons]
        exact hothers'.trans (by rw [hmade', List.append_assoc])
    | tick place => exact hthis.elim
    | close => exact hthis.elim
    | _ => exact around (fun _ _ => rfl) (fun _ => rfl) fun _ _ => rfl

end Provider

/-! ### Selections -/

namespace Selection

/-- The settings of a kind are the same. -/
def SameSettings (p p' : CredentialsProperties) : Kind → Prop
  | .fixed => p.accessKey = p'.accessKey ∧ p.secretKey = p'.secretKey
  | .metadata => p.instanceProfile = p'.instanceProfile
  | .profile => p.profile = p'.profile
  | .federation => p.sts = p'.sts

theorem Makes.unique {home : Option String} {client client' : Option Client}
    {p p' : CredentialsProperties} {k : Kind} {s s' : Source} (h : Makes home client p k s)
    (h' : Makes home client' p' k s') (hp : SameSettings p p' k)
    (hc : k = .federation → client = client') : s = s' := by
  cases h with
  | fixed ha hs =>
    cases h' with
    | fixed ha' hs' =>
      rw [hp.1, ha'] at ha
      rw [hp.2, hs'] at hs
      cases ha
      cases hs
      rfl
  | metadata =>
    cases h' with
    | metadata => rfl
  | @profile given name path hg hn he =>
    cases h' with
    | @profile given' name' path' hg' hn' he' =>
      rw [show p.profile = p'.profile from hp, hg'] at hg
      cases hg
      rw [hn'] at hn
      cases hn
      have hpath : path = path' := by
        generalize given.path = q at he he'
        cases he with
        | none =>
          cases he' with
          | none => rfl
        | some he =>
          cases he' with
          | some he' => rw [Option.some.inj (he.symm.trans he')]
      rw [hpath]
  | federation hs hc₁ =>
    cases h' with
    | federation hs' hc₂ =>
      rw [show p.sts = p'.sts from hp, hs'] at hs
      rw [hc rfl, hc₂] at hc₁
      cases hs
      cases hc₁
      rfl

theorem Makes.alike {home : Option String} {client : Option Client} {p : CredentialsProperties}
    {k : Kind} {s : Source} (h : Makes home client p k s) : s.Alike .exact s := by
  cases h with
  | fixed _ _ => exact .fixed (.refl _)
  | metadata => exact .instanceProfile ⟨rfl, .none⟩
  | profile _ _ _ => exact .profile ⟨rfl, .none⟩
  | federation _ _ => exact .webIdentity ⟨⟨rfl, fun _ => trivial⟩, .none⟩ _

/-- The client that federation gets, if there is one. -/
def clientFound (region : World → Step String) (factory : ClientFactory) (w : World) :
    Option Client :=
  match region (federating w) with
  | (.ok name, v) => (factory name v).1.toOption
  | (.error _, _) => none

theorem made_of_resolve {available : Option Bool} {region : World → Step String}
    {factory : ClientFactory} {p : CredentialsProperties} {w v : World} {t : Provider}
    (h : resolve available region factory p w = (.ok t, v)) :
    ∃ client sources, (.federation ∈ selected (available.getD w.webIdentity) p →
        client = clientFound region factory w) ∧
      List.Forall₂ (Makes w.environment.home client p)
        (selected (available.getD w.webIdentity) p) sources ∧ Arranged sources t := by
  have hr := resolve_cases available region factory p w
  rw [h] at hr
  cases hr with
  | plain hh hf hs ha => exact ⟨none, _, fun hm => absurd (mem_selected.mp hm) hf, hs, ha⟩
  | @federated name client v _ _ _ hh hf hr hc hs ha =>
    refine ⟨some client, _, fun _ => ?_, hs, ha⟩
    simp only [clientFound, hr, hc]
    rfl

theorem made_prefix {M M' : Kind → Source → Prop} {kinds later : List Kind}
    {sources sources' : List Source} (h : List.Forall₂ M kinds sources)
    (h' : List.Forall₂ M' (kinds ++ later) sources')
    (hsame : ∀ k ∈ kinds, ∀ {s s'}, M k s → M' k s' → s = s') :
    ∃ more, sources' = sources ++ more := by
  induction h generalizing sources' with
  | nil => exact ⟨sources', rfl⟩
  | cons hm _ ih =>
    cases h' with
    | cons hm' hrest =>
      obtain ⟨more, rfl⟩ := ih hrest fun k hk => hsame k (List.mem_cons_of_mem _ hk)
      obtain rfl := hsame _ List.mem_cons_self hm hm'
      exact ⟨more, rfl⟩

theorem made_alike {home : Option String} {client : Option Client} {p : CredentialsProperties}
    {kinds : List Kind} {sources : List Source}
    (h : List.Forall₂ (Makes home client p) kinds sources) : ∀ s ∈ sources, s.Alike .exact s := by
  induction h with
  | nil =>
    intro s hs
    cases hs
  | cons hm _ ih =>
    intro s hs
    rcases List.mem_cons.mp hs with rfl | hs
    · exact hm.alike
    · exact ih s hs

theorem extended_of_arranged {sources more : List Source} {t t' : Provider}
    (hne : sources ≠ []) (hs : ∀ s ∈ sources, s.Alike .exact s) (h : Arranged sources t)
    (h' : Arranged (sources ++ more) t') : Provider.ExtendedBy t t' := by
  have hleaves (l : List Source) (hl : ∀ s ∈ l, s.Alike .exact s) :
      List.Forall₂ (Provider.Alike .exact) (l.map .leaf) (l.map .leaf) := by
    refine List.forall₂_same.mpr fun t ht => ?_
    obtain ⟨s, hs, rfl⟩ := List.mem_map.mp ht
    exact .leaf (hl s hs)
  cases h with
  | standard => exact absurd rfl hne
  | single s =>
    have hs : s.Alike .exact s := hs s List.mem_cons_self
    cases h' with
    | single => exact .same (.leaf hs)
    | chain h2 =>
      rw [List.map_append]
      exact .first (.leaf hs)
  | chain h2 =>
    generalize hall : sources ++ more = all at h'
    cases h' with
    | standard => simp at hall; exact absurd hall.1 hne
    | single s =>
      have hlength := congrArg List.length hall
      simp at hlength
      omega
    | chain _ =>
      rw [← hall, List.map_append]
      exact .chain (hleaves sources hs)

/-- A selection with further sources at the end changes nothing while the one without them answers
with credentials: in worlds that differ in their pasts at most, every resolve of a run answers the
same, and the same calls are made. -/
theorem resolve_fallback {available : Option Bool} {region : World → Step String}
    {factory : ClientFactory} {p p' : CredentialsProperties} {w v v' : World} {t t' : Provider}
    (ht : resolve available region factory p w = (.ok t, v))
    (ht' : resolve available region factory p' w = (.ok t', v'))
    (hne : selected (available.getD w.webIdentity) p ≠ [])
    (hlater : selected (available.getD w.webIdentity) p <+:
      selected (available.getD w.webIdentity) p')
    (hsame : ∀ k ∈ selected (available.getD w.webIdentity) p, SameSettings p p' k)
    {u u' : World} (hu : u.Agrees u') {events : List Event}
    (he : ∀ e ∈ events, Provider.IsOrdinary e)
    (hok : ∀ answer ∈ Provider.answers events (t, u), ∃ c, answer = .ok c) :
    Provider.answers events (t', u') = Provider.answers events (t, u) ∧
      ∃ made, (Provider.run events (t, u)).2.calls = u.calls ++ made ∧
        (Provider.run events (t', u')).2.calls = u'.calls ++ made := by
  obtain ⟨client, sources, hc, hs, ha⟩ := made_of_resolve ht
  obtain ⟨client', sources', hc', hs', ha'⟩ := made_of_resolve ht'
  obtain ⟨later, hlater⟩ := hlater
  rw [← hlater] at hs' hc'
  obtain ⟨more, rfl⟩ := made_prefix hs hs' fun k hk _ _ hm hm' => hm.unique hm' (hsame k hk) <| by
    rintro rfl
    rw [hc hk, hc' (List.mem_append_left _ hk)]
  have hsources : sources ≠ [] := by
    rintro rfl
    exact hne (List.forall₂_nil_right_iff.mp hs)
  exact Provider.run_extended he (extended_of_arranged hsources (made_alike hs) ha ha') hu.matches
    hok

def devProfile : CredentialsProperties where
  profile := some { name := some "dev", path := some (Path.ofText "keys") }

def devOrFederation : CredentialsProperties :=
  { devProfile with sts := some { enabled := true, roleArn := some "role/app" } }

def devSource : Source := .profile ⟨⟨"dev", some (Path.ofText "keys")⟩, none⟩

def devFallback : Source :=
  .ofWebIdentity { client := ⟨"eu-west-1", .plain⟩, role := some "role/app" } refreshInterval

/-- A world with a file of keys for the profile. -/
def withDevKeys : World where
  files := [(["keys"],
    .file (asciiBytes "[dev]\naws_access_key_id = AKIADEV\naws_secret_access_key = s"))]

def devKeys : Credentials :=
  ⟨⟨.text "AKIADEV", .text "s", .absent⟩, none, some NamedProfile.name⟩

/-- Two resolves; in between time passes and the file of the profile goes away. -/
def devRun : List Event := [.resolve, .advance 60, .files [], .resolve]

/-- The profile alone, and a chain of it and of federation. -/
theorem resolve_fallback_dev :
    let region := RegionProvider.get (.fixed "eu-west-1")
    let v := (resolve none region recordingFactory devOrFederation withDevKeys).2
    resolve none region recordingFactory devProfile withDevKeys =
        (.ok (.leaf devSource), withDevKeys) ∧
      resolve none region recordingFactory devOrFederation withDevKeys =
        (.ok (.chain [.leaf devSource, .leaf devFallback]), v) ∧
      Provider.answers devRun (.leaf devSource, withDevKeys) = [.ok devKeys, .ok devKeys] ∧
      Provider.answers devRun (.chain [.leaf devSource, .leaf devFallback], v) =
        Provider.answers devRun (.leaf devSource, withDevKeys) ∧
      ∃ made, (Provider.run devRun (.leaf devSource, withDevKeys)).2.calls =
          withDevKeys.calls ++ made ∧
        (Provider.run devRun (.chain [.leaf devSource, .leaf devFallback], v)).2.calls =
          v.calls ++ made := by
  intro region v
  have hselected : selected true devProfile = [.profile] := by decide
  have hprefix : selected true devProfile <+: selected true devOrFederation :=
    ⟨[.federation], by decide⟩
  have hne : selected true devProfile ≠ [] := by
    rw [hselected]
    decide
  have hsame : ∀ k ∈ selected true devProfile, SameSettings devProfile devOrFederation k := by
    intro k hk
    rw [hselected] at hk
    obtain rfl := List.mem_singleton.mp hk
    rfl
  have hev : ∀ e ∈ devRun, Provider.IsOrdinary e := by simp [devRun, Provider.IsOrdinary]
  have ht : resolve none region recordingFactory devProfile withDevKeys =
      (.ok (.leaf devSource), withDevKeys) := rfl
  have ht' : resolve none region recordingFactory devOrFederation withDevKeys =
      (.ok (.chain [.leaf devSource, .leaf devFallback]), v) := rfl
  have hanswers : Provider.answers devRun (.leaf devSource, withDevKeys) =
      [.ok devKeys, .ok devKeys] := rfl
  have hok : ∀ answer ∈ Provider.answers devRun (.leaf devSource, withDevKeys),
      ∃ c, answer = .ok c := by
    rw [hanswers]
    simp
  have hv : withDevKeys.Agrees v := rfl
  exact ⟨ht, ht', hanswers, resolve_fallback ht ht' hne hprefix hsame hv hev hok⟩

end Selection

end CloudCredentials
