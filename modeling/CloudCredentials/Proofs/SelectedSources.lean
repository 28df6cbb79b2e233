import CloudCredentials.Proofs.TreeAsk
import CloudCredentials.Selection
import Mathlib.Data.List.Forall2

/-!
# What a selection makes

Which kinds of sources settings ask for, what is made for each of them, and what can go wrong.
The region is looked up, and a client is made for it, once and only if federation is selected.
-/

namespace CloudCredentials.Selection

/-! ### Kinds of sources -/

inductive Kind
  | fixed
  | metadata
  | profile
  | federation
  deriving DecidableEq, Repr

/-- The kinds in the order of their precedence. -/
def Kind.order : List Kind := [.fixed, .metadata, .profile, .federation]

/-- A text that is given and has a character that is not blank. -/
def IsVisible (s : Option String) : Prop :=
  ∃ t, s = some t ∧ ∃ c ∈ t.toList, Text.isBlankChar c = false

theorem hasText_iff (s : Option String) : Text.hasText s = true ↔ IsVisible s := by
  cases s with
  | none => simp [Text.hasText, IsVisible]
  | some t => simp [Text.hasText, IsVisible, Text.isBlank]

theorem IsVisible.ne_empty {t : String} (h : IsVisible (some t)) : t ≠ "" :=
  Text.ne_empty_of_hasText ((hasText_iff _).mpr h)

/-- The settings ask for a source of a kind; federation needs support as well. -/
def IsSelected (supported : Bool) (p : CredentialsProperties) : Kind → Prop
  | .fixed => IsVisible p.accessKey ∧ IsVisible p.secretKey
  | .metadata => p.instanceProfile = true
  | .profile => ∃ profile ∈ p.profile, IsVisible profile.name
  | .federation => ∃ sts ∈ p.sts, supported = true ∧ sts.enabled = true

instance (s : Option String) : Decidable (IsVisible s) := decidable_of_iff _ (hasText_iff s)

instance (supported : Bool) (p : CredentialsProperties) : DecidablePred (IsSelected supported p)
  | .fixed => inferInstanceAs (Decidable (_ ∧ _))
  | .metadata => inferInstanceAs (Decidable (_ = true))
  | .profile => inferInstanceAs (Decidable (∃ profile ∈ p.profile, IsVisible profile.name))
  | .federation =>
    inferInstanceAs (Decidable (∃ sts ∈ p.sts, supported = true ∧ sts.enabled = true))

/-- The kinds that settings ask for, in the order of their precedence. -/
def selected (supported : Bool) (p : CredentialsProperties) : List Kind :=
  Kind.order.filter fun k => IsSelected supported p k

theorem mem_selected {supported : Bool} {p : CredentialsProperties} {k : Kind} :
    k ∈ selected supported p ↔ IsSelected supported p k := by
  have hk : k ∈ Kind.order := by cases k <;> decide
  simp [selected, hk]

/-- A kind alone when it is selected, and nothing otherwise. -/
def chosen (supported : Bool) (p : CredentialsProperties) (k : Kind) : List Kind :=
  if IsSelected supported p k then [k] else []

theorem selected_eq (supported : Bool) (p : CredentialsProperties) :
    selected supported p = chosen supported p .fixed ++ chosen supported p .metadata ++
      chosen supported p .profile ++ chosen supported p .federation := by
  have one (k : Kind) : List.filter (fun k => IsSelected supported p k) [k] =
      chosen supported p k := by
    by_cases hk : IsSelected supported p k <;> simp [chosen, hk]
  have horder : Kind.order = [.fixed] ++ [.metadata] ++ [.profile] ++ [.federation] := rfl
  simp only [selected, horder, List.filter_append, one]

/-! ### The source of each kind -/

/-- What is made for a kind: the settings as they are, and nothing looked up yet. Only the path of
a profile is changed, from one that starts at the home directory to the one that it stands for. -/
inductive Makes (home : Option String) (client : Option Client) (p : CredentialsProperties) :
    Kind → Source → Prop
  | fixed {accessKey secretKey : String} (ha : p.accessKey = some accessKey)
    (hs : p.secretKey = some secretKey) :
    Makes home client p .fixed (.fixed ⟨.text accessKey, .text secretKey, .absent⟩)
  | metadata : Makes home client p .metadata (.instanceProfile ⟨(), none⟩)
  | profile {given : ProfileProperties} {name : String} {path : Option Path}
    (hp : p.profile = some given) (hn : given.name = some name)
    (he : Option.Rel (fun q expanded => q.expandHome home = some expanded) given.path path) :
    Makes home client p .profile (.profile ⟨⟨name, path⟩, none⟩)
  | federation {sts : StsProperties} {c : Client} (hs : p.sts = some sts) (hc : client = some c) :
    Makes home client p .federation (.webIdentity
      ⟨⟨c, sts.roleArn, sts.tokenFile.map .path, sts.sessionName, sts.asyncUpdate⟩, none⟩
      ⟨60 * Time.second, sts.asyncUpdate, false⟩)

/-- The provider that sources make: the standard lookup for none, a single source itself, and a
chain of several. -/
inductive Arranged : List Source → Provider → Prop
  | standard : Arranged [] (.leaf (.standard ⟨{}, none⟩))
  | single (s : Source) : Arranged [s] (.leaf s)
  | chain {sources : List Source} (h : 2 ≤ sources.length) :
    Arranged sources (.chain (sources.map .leaf))

theorem providerOf_arranged (sources : List Source) : Arranged sources (providerOf sources) := by
  match sources with
  | [] => exact .standard
  | [s] => exact .single s
  | s :: t :: rest =>
    have h : 2 ≤ (s :: t :: rest).length := by simp
    exact .chain h

theorem Arranged.mem_leaves {sources : List Source} {provider : Provider}
    (ha : Arranged sources provider) {s : Source} (hs : s ∈ Tree.leaves provider) :
    s ∈ sources ∨ sources = [] ∧ s = .standard ⟨{}, none⟩ := by
  cases ha with
  | standard => exact .inr ⟨rfl, List.mem_singleton.mp hs⟩
  | single s' => exact .inl hs
  | chain _ =>
    obtain ⟨m, hm, hs'⟩ := Tree.mem_leaves_chain.mp hs
    obtain ⟨s', hmem, rfl⟩ := List.mem_map.mp hm
    rw [List.mem_singleton.mp hs']
    exact .inl hmem

/-- The selected profile has a path that starts at a home directory which is not known. -/
def IsHomeless (home : Option String) (p : CredentialsProperties) : Prop :=
  ∃ given ∈ p.profile, IsVisible given.name ∧ ∃ path ∈ given.path, path.expandHome home = none

instance (home : Option String) (p : CredentialsProperties) : Decidable (IsHomeless home p) :=
  inferInstanceAs (Decidable (∃ given ∈ p.profile, _ ∧ ∃ path ∈ given.path, _ = none))

section Parts

variable (home : Option String) (client : Option Client) (supported : Bool)
  (p : CredentialsProperties)

theorem fixedSources_makes : ∃ sources, fixedSources p = .ok sources ∧
    List.Forall₂ (Makes home client p) (chosen supported p .fixed) sources := by
  have hw : wantsFixed p = true ↔ IsSelected supported p .fixed := by
    simp only [wantsFixed, Bool.and_eq_true, hasText_iff, IsSelected]
  unfold fixedSources chosen
  by_cases hsel : IsSelected supported p .fixed
  · obtain ⟨⟨accessKey, ha, va⟩, ⟨secretKey, hs, vs⟩⟩ := hsel
    have hsel : IsSelected supported p .fixed := ⟨⟨accessKey, ha, va⟩, ⟨secretKey, hs, vs⟩⟩
    have hna : accessKey ≠ "" := IsVisible.ne_empty ⟨accessKey, rfl, va⟩
    have hns : secretKey ≠ "" := IsVisible.ne_empty ⟨secretKey, rfl, vs⟩
    rw [if_pos (hw.mpr hsel), if_pos hsel, ha, hs]
    refine ⟨[.fixed ⟨.text accessKey, .text secretKey, .absent⟩], ?_, ?_⟩
    · simp [Source.ofKeys, Keys.isComplete, Datum.ofOption, Datum.isEmpty, hna, hns, Except.map]
    · exact .cons (.fixed ha hs) .nil
  · rw [if_neg (mt hw.mp hsel), if_neg hsel]
    exact ⟨[], rfl, .nil⟩

theorem instanceSources_makes :
    List.Forall₂ (Makes home client p) (chosen supported p .metadata) (instanceSources p) := by
  unfold instanceSources chosen
  by_cases hsel : p.instanceProfile = true
  · have hk : IsSelected supported p .metadata := hsel
    rw [if_pos hsel, if_pos hk]
    exact .cons .metadata .nil
  · have hk : ¬ IsSelected supported p .metadata := hsel
    rw [if_neg hsel, if_neg hk]
    exact .nil

/-- A named profile is made for the selected profile, with its path as it stands. -/
theorem profileSources_of_visible {given : ProfileProperties} {name : String}
    (hp : p.profile = some given) (hn : given.name = some name) (hv : IsVisible (some name))
    (w : World) : profileSources p w = match given.path with
      | none => .ok [.profile ⟨⟨name, none⟩, none⟩]
      | some path =>
        match path.expandHome w.environment.home with
        | none => .error .noHome
        | some expanded => .ok [.profile ⟨⟨name, some expanded⟩, none⟩] := by
  have ht : Text.hasText (some name) = true := (hasText_iff _).mpr hv
  have hne : name ≠ "" := hv.ne_empty
  cases hq : given.path with
  | none =>
    simp [profileSources, wantedProfile?, hp, hn, hq, ht, hne, Source.ofProfile,
      NamedProfile.make, Except.map]
  | some path =>
    cases hx : path.expandHome w.environment.home with
    | none | some expanded =>
      simp [profileSources, wantedProfile?, hp, hn, hq, ht, hne, hx, Source.ofProfile,
        NamedProfile.make, FileName.path?, Except.map]

theorem profileSources_of_homeless {p : CredentialsProperties} {w : World}
    (h : IsHomeless w.environment.home p) : profileSources p w = .error .noHome := by
  obtain ⟨given, hp, ⟨name, hn, hv⟩, path, hq, hx⟩ := h
  rw [profileSources_of_visible p hp hn ⟨name, rfl, hv⟩ w, Option.mem_def.mp hq]
  simp only [hx]

theorem profileSources_makes {w : World} (hh : ¬ IsHomeless w.environment.home p) :
    ∃ sources, profileSources p w = .ok sources ∧
      List.Forall₂ (Makes w.environment.home client p) (chosen supported p .profile) sources := by
  by_cases hsel : IsSelected supported p .profile
  · rw [chosen, if_pos hsel]
    obtain ⟨given, hp, name, hn, hv⟩ := hsel
    rw [profileSources_of_visible p hp hn ⟨name, rfl, hv⟩ w]
    -- what is left is that the made path is the given one with its home directory
    have made {path : Option Path} (he : Option.Rel
        (fun q expanded => q.expandHome w.environment.home = some expanded) given.path path) :
        List.Forall₂ (Makes w.environment.home client p) [.profile]
          [.profile ⟨⟨name, path⟩, none⟩] := .cons (.profile hp hn he) .nil
    cases hq : given.path with
    | none =>
      rw [hq] at made
      exact ⟨_, rfl, made .none⟩
    | some path =>
      rw [hq] at made
      cases hx : path.expandHome w.environment.home with
      | none => exact absurd ⟨given, hp, ⟨name, hn, hv⟩, path, hq, hx⟩ hh
      | some expanded => exact ⟨_, by simp only [hx], made (.some hx)⟩
  · have hw : wantedProfile? p = none := by
      cases hp : p.profile with
      | none => simp [wantedProfile?, hp]
      | some given =>
        have ht : ¬ Text.hasText given.name = true := fun ht =>
          hsel ⟨given, hp, (hasText_iff _).mp ht⟩
        simp [wantedProfile?, hp, ht]
    rw [chosen, if_neg hsel, profileSources, hw]
    exact ⟨[], rfl, .nil⟩

/-- The world after support was looked at: where it is missed, that is recorded. -/
def afterSupport (w : World) : World :=
  if supported = false ∧ p.sts.isSome = true then
    w.record .debug .resolver ("Unable to find " ++ supportName ++
      ". Consider upgrading botocore to use STS web identity credentials")
  else w

/-- The world in which the region is looked up. -/
def federating (w : World) : World :=
  w.record .debug .resolver "Creating StsWebIdentityCredentialsProvider"

variable {supported p}

theorem federationSources_of_not {available : Option Bool} {region : World → Step String}
    {factory : ClientFactory} {w : World}
    (hf : ¬ IsSelected (available.getD w.webIdentity) p .federation) :
    federationSources available region factory p w =
      (.ok [], afterSupport (available.getD w.webIdentity) p w) := by
  unfold federationSources afterSupport support
  cases hs : p.sts with
  | none => simp
  | some sts =>
    cases hsup : available.getD w.webIdentity with
    | false => simp
    | true =>
      have he : sts.enabled = false := by simpa [IsSelected, hs, hsup] using hf
      simp [he]

theorem federationSources_of_selected {available : Option Bool} {region : World → Step String}
    {factory : ClientFactory} {w : World} {sts : StsProperties} (hs : p.sts = some sts)
    (hf : IsSelected (available.getD w.webIdentity) p .federation) :
    federationSources available region factory p w =
      ((federationSource region factory sts w).1.map ([·]),
        (federationSource region factory sts w).2) := by
  obtain ⟨sts', hs', hsup, he⟩ := hf
  cases Option.some.inj (hs.symm.trans hs')
  simp [federationSources, support, hs, hsup, he]

end Parts

/-! ### The whole selection -/

/-- What a selection comes to. It fails when the home directory of the selected profile is not
known, or as the lookup of the region or the making of the client does; else there is one source
for each selected kind. Without federation nothing is looked up; with it, one lookup and then the
making of one client for its result are all that happens to the world. -/
inductive Resolved (available : Option Bool) (region : World → Step String)
    (factory : ClientFactory) (p : CredentialsProperties) (w : World) :
    Except Failure Provider × World → Prop
  | homeless (hh : IsHomeless w.environment.home p) :
    Resolved available region factory p w (.error .noHome, w)
  | plain {sources : List Source} {provider : Provider}
    (hh : ¬ IsHomeless w.environment.home p)
    (hf : ¬ IsSelected (available.getD w.webIdentity) p .federation)
    (hs : List.Forall₂ (Makes w.environment.home none p)
      (selected (available.getD w.webIdentity) p) sources)
    (ha : Arranged sources provider) :
    Resolved available region factory p w
      (.ok provider, afterSupport (available.getD w.webIdentity) p w)
  | regionless {failure : Failure} {v : World} (hh : ¬ IsHomeless w.environment.home p)
    (hf : IsSelected (available.getD w.webIdentity) p .federation)
    (hr : region (federating w) = (.error failure, v)) :
    Resolved available region factory p w (.error failure, v)
  | clientless {name : String} {failure : Failure} {v u : World}
    (hh : ¬ IsHomeless w.environment.home p)
    (hf : IsSelected (available.getD w.webIdentity) p .federation)
    (hr : region (federating w) = (.ok name, v)) (hc : factory name v = (.error failure, u)) :
    Resolved available region factory p w (.error failure, u)
  | federated {name : String} {client : Client} {v u : World} {sources : List Source}
    {provider : Provider} (hh : ¬ IsHomeless w.environment.home p)
    (hf : IsSelected (available.getD w.webIdentity) p .federation)
    (hr : region (federating w) = (.ok name, v)) (hc : factory name v = (.ok client, u))
    (hs : List.Forall₂ (Makes w.environment.home (some client) p)
      (selected (available.getD w.webIdentity) p) sources)
    (ha : Arranged sources provider) :
    Resolved available region factory p w (.ok provider, u)

section Whole

variable {available : Option Bool} {region : World → Step String} {factory : ClientFactory}
  {p : CredentialsProperties} {w v : World}

/-- Once the paths are known, a failure of federation is the failure of the selection. -/
theorem resolve_of_failure {failure : Failure} (hh : ¬ IsHomeless w.environment.home p)
    (hf : federationSources available region factory p w = (.error failure, v)) :
    resolve available region factory p w = (.error failure, v) := by
  obtain ⟨fixed, hfixed, _⟩ := fixedSources_makes none none false p
  obtain ⟨profile, hprofile, _⟩ := profileSources_makes none false p hh
  simp only [resolve, sources, hfixed, hprofile, hf, Except.map]

theorem resolve_of_federation {client : Option Client} {supported : Bool} {found : List Source}
    (hh : ¬ IsHomeless w.environment.home p)
    (hf : federationSources available region factory p w = (.ok found, v))
    (hs : List.Forall₂ (Makes w.environment.home client p) (chosen supported p .federation)
      found) :
    ∃ sources provider, resolve available region factory p w = (.ok provider, v) ∧
      List.Forall₂ (Makes w.environment.home client p) (selected supported p) sources ∧
      Arranged sources provider := by
  obtain ⟨fixed, hfixed, mfixed⟩ := fixedSources_makes w.environment.home client supported p
  obtain ⟨profile, hprofile, mprofile⟩ := profileSources_makes client supported p hh
  have mmetadata := instanceSources_makes w.environment.home client supported p
  refine ⟨fixed ++ instanceSources p ++ profile ++ found, _, ?_, ?_, providerOf_arranged _⟩
  · simp only [resolve, sources, hfixed, hprofile, hf, Except.map]
  · rw [selected_eq]
    exact List.rel_append (List.rel_append (List.rel_append mfixed mmetadata) mprofile) hs

/-- Federation is one lookup of the region and then one client for it. -/
theorem resolve_federated (hh : ¬ IsHomeless w.environment.home p)
    (hf : IsSelected (available.getD w.webIdentity) p .federation) :
    Resolved available region factory p w (resolve available region factory p w) := by
  obtain ⟨sts, hs, _⟩ := id hf
  have hfed : federationSources available region factory p w = _ :=
    federationSources_of_selected hs hf
  unfold federationSource at hfed
  rcases hr : region (federating w) with ⟨failure | name, v⟩
  · have hr' := hr
    unfold federating at hr'
    simp only [hr', Except.map] at hfed
    rw [resolve_of_failure hh hfed]
    exact .regionless hh hf hr
  · have hr' := hr
    unfold federating at hr'
    rcases hc : factory name v with ⟨failure | client, u⟩
    · simp only [hr', hc, Except.map] at hfed
      rw [resolve_of_failure hh hfed]
      exact .clientless hh hf hr hc
    · simp only [hr', hc, Except.map] at hfed
      have hmade : List.Forall₂ (Makes w.environment.home (some client) p)
          (chosen (available.getD w.webIdentity) p .federation)
          [.ofWebIdentity (federation sts client) refreshInterval] := by
        rw [chosen, if_pos hf]
        exact .cons (.federation hs rfl) .nil
      obtain ⟨sources, provider, hres, hsources, ha⟩ := resolve_of_federation hh hfed hmade
      rw [hres]
      exact .federated hh hf hr hc hsources ha

theorem resolve_cases (available : Option Bool) (region : World → Step String)
    (factory : ClientFactory) (p : CredentialsProperties) (w : World) :
    Resolved available region factory p w (resolve available region factory p w) := by
  by_cases hh : IsHomeless w.environment.home p
  · obtain ⟨fixed, hfixed, _⟩ := fixedSources_makes none none false p
    have hres : resolve available region factory p w = (.error .noHome, w) := by
      simp only [resolve, sources, hfixed, profileSources_of_homeless hh, Except.map]
    rw [hres]
    exact .homeless hh
  · by_cases hf : IsSelected (available.getD w.webIdentity) p .federation
    · exact resolve_federated hh hf
    · have hmade : List.Forall₂ (Makes w.environment.home none p)
          (chosen (available.getD w.webIdentity) p .federation) [] := by
        rw [chosen, if_neg hf]
        exact .nil
      obtain ⟨sources, provider, hres, hsources, ha⟩ :=
        resolve_of_federation hh (federationSources_of_not hf) hmade
      rw [hres]
      exact .plain hh hf hsources ha

end Whole

/-! ### Calls -/

/-- A lookup of the region that writes down that it was made, and nothing else. -/
def noteLookup (region : World → Step String) (w : World) : Step String :=
  ((region w).1, { (region w).2 with calls := w.calls ++ [.regionAsked] })

/-- A factory that writes down the region it makes a client for, and nothing else. -/
def noteClient (factory : ClientFactory) : ClientFactory := fun name w =>
  ((factory name w).1, { (factory name w).2 with calls := w.calls ++ [.clientMade name] })

/-- The calls of a selection: with federation one lookup, and one client for the region found. -/
def selectionCalls (available : Option Bool) (region : World → Step String)
    (p : CredentialsProperties) (w : World) : List Call :=
  if IsHomeless w.environment.home p ∨ ¬ IsSelected (available.getD w.webIdentity) p .federation
  then []
  else
    match (region (federating w)).1 with
    | .error _ => [.regionAsked]
    | .ok name => [.regionAsked, .clientMade name]

/-- A selection makes the specified provider and nothing more: it comes to what `Resolved` says,
and with any lookup and any factory its calls are one lookup and one client, if federation is
selected, and none otherwise. -/
theorem resolve_resolved (available : Option Bool) (region : World → Step String)
    (factory : ClientFactory) (p : CredentialsProperties) (w : World) :
    Resolved available region factory p w (resolve available region factory p w) ∧
      (resolve available (noteLookup region) (noteClient factory) p w).2.calls =
        w.calls ++ selectionCalls available region p w := by
  refine ⟨resolve_cases available region factory p w, ?_⟩
  have h := resolve_cases available (noteLookup region) (noteClient factory) p w
  generalize resolve available (noteLookup region) (noteClient factory) p w = r at h
  unfold selectionCalls
  cases h with
  | homeless hh =>
    rw [if_pos (.inl hh)]
    exact (List.append_nil _).symm
  | plain hh hf hs ha =>
    rw [if_pos (.inr hf), List.append_nil, afterSupport]
    split <;> rfl
  | regionless hh hf hr =>
    obtain ⟨hanswer, rfl⟩ := Prod.mk.inj hr
    rw [if_neg (by simp [hh, hf]), hanswer]
    rfl
  | clientless hh hf hr hc =>
    obtain ⟨hanswer, rfl⟩ := Prod.mk.inj hr
    obtain ⟨-, rfl⟩ := Prod.mk.inj hc
    rw [if_neg (by simp [hh, hf]), hanswer]
    simp [federating]
  | federated hh hf hr hc hs ha =>
    obtain ⟨hanswer, rfl⟩ := Prod.mk.inj hr
    obtain ⟨-, rfl⟩ := Prod.mk.inj hc
    rw [if_neg (by simp [hh, hf]), hanswer]
    simp [federating]

end CloudCredentials.Selection
