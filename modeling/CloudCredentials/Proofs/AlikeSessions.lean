import CloudCredentials.Proofs.AlikeProviders
import CloudCredentials.Selection
import CloudCredentials.Session

/-!
# Selections and sessions that are alike

Settings that differ in the secret key only select providers that are alike. Sessions that hold
alike keys use alike providers alike: the requests that they make are signed with the same access
key, and what they report about an account or its validity is the same.
-/

namespace CloudCredentials

variable {L : Likeness} {u u' w w' : World}

/-! ### Selections -/

/-- Settings that differ in the secret key only, which has text in both or in none. The token file
that they name is open. -/
structure CredentialsProperties.Alike (L : Likeness) (p p' : CredentialsProperties) : Prop where
  accessKey : p.accessKey = p'.accessKey
  secretKey : L.secret (.ofOption p.secretKey) (.ofOption p'.secretKey)
  visible : Text.hasText p.secretKey = Text.hasText p'.secretKey
  instanceProfile : p.instanceProfile = p'.instanceProfile
  profile : p.profile = p'.profile
  sts : p.sts = p'.sts
  isOpen : ∀ {sts path}, p.sts = some sts → sts.tokenFile = some path → L.isOpen path.text

theorem Source.ofKeys_alike {k k' : Keys} (h : k.Alike L k') :
    Both (Source.Alike L) (Source.ofKeys k) (Source.ofKeys k') := by
  unfold Source.ofKeys
  rw [h.isComplete]
  split
  · exact .ok (.fixed h)
  · exact .error _

theorem Source.ofProfile_alike (home : Option String) (profile : String)
    (file : Option FileName) :
    Both (Source.Alike L) (Source.ofProfile home profile file)
      (Source.ofProfile home profile file) := by
  unfold Source.ofProfile
  cases NamedProfile.make home profile file with
  | error failure => exact .error _
  | ok p => exact .ok (.profile ⟨rfl, .none⟩)

namespace Selection

variable {p p' : CredentialsProperties}

theorem single_alike {s s' : Except Failure Source} (h : Both (Source.Alike L) s s') :
    Both (List.Forall₂ (Source.Alike L)) (s.map ([·])) (s'.map ([·])) :=
  h.map fun hs => .cons hs .nil

theorem fixedSources_alike (hp : p.Alike L p') :
    Both (List.Forall₂ (Source.Alike L)) (fixedSources p) (fixedSources p') := by
  have hw : wantsFixed p = wantsFixed p' := by
    simp only [wantsFixed, hp.accessKey, hp.visible]
  unfold fixedSources
  rw [hw, hp.accessKey]
  split
  · exact single_alike (Source.ofKeys_alike ⟨rfl, hp.secretKey, L.refl _⟩)
  · exact .ok .nil

theorem instanceSources_alike (hp : p.Alike L p') :
    List.Forall₂ (Source.Alike L) (instanceSources p) (instanceSources p') := by
  unfold instanceSources
  rw [hp.instanceProfile]
  split
  · exact .cons (.instanceProfile ⟨rfl, .none⟩) .nil
  · exact .nil

theorem profileSources_alike (hp : p.Alike L p') (h : World.Alike L u u' w w') :
    Both (List.Forall₂ (Source.Alike L)) (profileSources p w) (profileSources p' w') := by
  have hw : wantedProfile? p = wantedProfile? p' := by
    simp only [wantedProfile?, hp.profile]
  unfold profileSources
  rw [hw, h.environment]
  cases wantedProfile? p' with
  | none => exact .ok .nil
  | some wanted => exact single_alike (Source.ofProfile_alike _ _ _)

theorem support_alike (available : Option Bool) (h : World.Alike L u u' w w') :
    (support available w).1 = (support available w').1 ∧
      World.Alike L u u' (support available w).2 (support available w').2 := by
  unfold support
  rw [h.webIdentity]
  split
  · exact ⟨rfl, h⟩
  · exact ⟨rfl, h.record ..⟩

theorem federationSource_alike (region : RegionProvider) {sts : StsProperties}
    (hs : ∀ {path}, sts.tokenFile = some path → L.isOpen path.text)
    (h : World.Alike L u u' w w') :
    Both (Source.Alike L) (federationSource region.get unsignedFactory sts w).1
        (federationSource region.get unsignedFactory sts w').1 ∧
      World.Alike L u u' (federationSource region.get unsignedFactory sts w).2
        (federationSource region.get unsignedFactory sts w').2 := by
  obtain ⟨hr, hw⟩ := region.get_alike
    (h.record .debug .resolver "Creating StsWebIdentityCredentialsProvider")
  unfold federationSource
  dsimp only
  generalize region.get (w.record .debug .resolver
    "Creating StsWebIdentityCredentialsProvider") = r at hr hw
  generalize region.get (w'.record .debug .resolver
    "Creating StsWebIdentityCredentialsProvider") = r' at hr hw
  obtain ⟨found, v⟩ := r
  obtain ⟨found', v'⟩ := r'
  dsimp only at hr hw
  subst hr
  cases found with
  | error failure => exact ⟨.error _, hw⟩
  | ok name =>
    dsimp only [unsignedFactory]
    rw [freshClient_alike (some name) hw]
    cases freshClient (some name) v' with
    | error failure => exact ⟨.error _, hw⟩
    | ok client =>
      refine ⟨.ok (.webIdentity ⟨⟨rfl, ?_⟩, .none⟩ _), hw⟩
      intro file hf
      obtain ⟨path, hp, rfl⟩ := Option.map_eq_some_iff.mp hf
      exact hs hp

theorem federationSources_alike (available : Option Bool) (region : RegionProvider)
    (hp : p.Alike L p') (h : World.Alike L u u' w w') :
    Both (List.Forall₂ (Source.Alike L))
        (federationSources available region.get unsignedFactory p w).1
        (federationSources available region.get unsignedFactory p' w').1 ∧
      World.Alike L u u' (federationSources available region.get unsignedFactory p w).2
        (federationSources available region.get unsignedFactory p' w').2 := by
  unfold federationSources
  cases hs : p.sts with
  | none =>
    rw [← hp.sts, hs]
    exact ⟨.ok .nil, h⟩
  | some sts =>
    rw [← hp.sts, hs]
    obtain ⟨hsup, hw⟩ := support_alike available h
    dsimp only
    generalize support available w = r at hsup hw
    generalize support available w' = r' at hsup hw
    obtain ⟨supported, v⟩ := r
    obtain ⟨supported', v'⟩ := r'
    dsimp only at hsup hw
    subst hsup
    cases supported && sts.enabled with
    | false => exact ⟨.ok .nil, hw⟩
    | true =>
      obtain ⟨hsource, hv⟩ := federationSource_alike region (hp.isOpen hs) hw
      exact ⟨single_alike hsource, hv⟩

theorem providerOf_alike {sources sources' : List Source}
    (h : List.Forall₂ (Source.Alike L) sources sources') :
    Provider.Alike L (providerOf sources) (providerOf sources') := by
  cases h with
  | nil => exact .leaf (.standard ⟨.start none, .none⟩)
  | cons hs hrest =>
    cases hrest with
    | nil => exact .leaf hs
    | cons ht hrest =>
      exact .chain (List.rel_map (fun _ _ h => .leaf h) (.cons hs (.cons ht hrest)))

theorem resolve_alike (available : Option Bool) (region : RegionProvider) (hp : p.Alike L p')
    (h : World.Alike L u u' w w') :
    Both (Provider.Alike L) (resolve available region.get unsignedFactory p w).1
        (resolve available region.get unsignedFactory p' w').1 ∧
      World.Alike L u u' (resolve available region.get unsignedFactory p w).2
        (resolve available region.get unsignedFactory p' w').2 := by
  have hfixed := fixedSources_alike hp
  have hprofile := profileSources_alike hp h
  obtain ⟨hfed, hw⟩ := federationSources_alike available region hp h
  have hall : Both (List.Forall₂ (Source.Alike L))
        (sources available region.get unsignedFactory p w).1
        (sources available region.get unsignedFactory p' w').1 ∧
      World.Alike L u u' (sources available region.get unsignedFactory p w).2
        (sources available region.get unsignedFactory p' w').2 := by
    unfold sources
    generalize fixedSources p = fixed at hfixed
    generalize fixedSources p' = fixed' at hfixed
    generalize profileSources p w = profile at hprofile
    generalize profileSources p' w' = profile' at hprofile
    generalize federationSources available region.get unsignedFactory p w = r at hfed hw
    generalize federationSources available region.get unsignedFactory p' w' = r' at hfed hw
    obtain ⟨federation, v⟩ := r
    obtain ⟨federation', v'⟩ := r'
    dsimp only at hw
    cases hfixed with
    | error failure => exact ⟨.error _, h⟩
    | ok hfixed =>
      cases hprofile with
      | error failure => exact ⟨.error _, h⟩
      | ok hprofile =>
        cases hfed with
        | error failure => exact ⟨.error _, hw⟩
        | ok hfed =>
          refine ⟨.ok ?_, hw⟩
          exact List.rel_append (List.rel_append (List.rel_append hfixed
            (instanceSources_alike hp)) hprofile) hfed
  exact ⟨hall.1.map providerOf_alike, hall.2⟩

end Selection

/-! ### Keys of sessions -/

inductive SessionKeys.Alike (L : Likeness) : SessionKeys → SessionKeys → Prop
  | fixed {k k' : Keys} (h : k.Alike L k') : Alike L (.fixed k) (.fixed k')
  | leased {l l' : Lease} (h : l.Alike L l') : Alike L (.leased l) (.leased l')

/-- Sessions in the same region which hold alike keys. -/
structure Session.Alike (L : Likeness) (s s' : Session) : Prop where
  region : s.region = s'.region
  view : s.view.Alike L s'.view
  held : Option.Rel (SessionKeys.Alike L) s.held s'.held

namespace Session

variable {s s' : Session}

theorem Alike.expiration (hs : s.Alike L s') : s.expiration = s'.expiration := by
  have hh := hs.held
  unfold Session.expiration
  generalize s.held = k at hh
  generalize s'.held = k' at hh
  cases hh with
  | none => rfl
  | some hk =>
    cases hk with
    | fixed _ => rfl
    | leased hl => exact hl.expiry

theorem Alike.isRenewing (hs : s.Alike L s') : s.isRenewing = s'.isRenewing := by
  have hh := hs.held
  unfold Session.isRenewing
  generalize s.held = k at hh
  generalize s'.held = k' at hh
  cases hh with
  | none => rfl
  | some hk => cases hk <;> rfl

theorem keysOf_alike {c c' : Credentials} (hc : c.Alike L c') :
    Both (SessionKeys.Alike L) (keysOf c) (keysOf c') := by
  unfold keysOf
  rw [hc.expiration]
  cases c'.expiration with
  | none => exact .ok (.fixed hc.keys)
  | some t =>
    dsimp only
    cases (written t).read with
    | error failure => exact .error _
    | ok t => exact .ok (.leased ⟨.some hc.keys, rfl⟩)

section Asked

variable {σ : Type} {S : σ → σ → Prop} {ask ask' : Asking σ} {p p' : σ}

/-- Asking ends alike in related states. -/
def AskedAlike (L : Likeness) (u u' : World) (S : σ → σ → Prop) (ask ask' : Asking σ) : Prop :=
  ∀ {p p' w w'}, S p p' → World.Alike L u u' w w' →
    Ends (Credentials.Alike L) S (World.Alike L u u') (ask p w) (ask' p' w')

/-- The provider that a session asks, and the world, are related. -/
def Around (L : Likeness) (u u' : World) (S : σ → σ → Prop) (s s' : σ × World) : Prop :=
  S s.1 s'.1 ∧ World.Alike L u u' s.2 s'.2

variable (ha : AskedAlike L u u' S ask ask')

include ha

theorem fetch_alike {q q' : σ × World} (hq : Around L u u' S q q') :
    Both (Delivery.Alike L) (fetch ask q).1 (fetch ask' q').1 ∧
      Around L u u' S (fetch ask q).2 (fetch ask' q').2 := by
  obtain ⟨hc, hp, hw⟩ := ha hq.1 hq.2
  unfold fetch
  generalize ask q.1 q.2 = r at hc hp hw
  generalize ask' q'.1 q'.2 = r' at hc hp hw
  obtain ⟨answer, x, v⟩ := r
  obtain ⟨answer', x', v'⟩ := r'
  dsimp only at hp hw
  cases hc with
  | error failure => exact ⟨.error _, hp, hw⟩
  | ok hc =>
    refine ⟨.ok ?_, hp, hw⟩
    unfold deliveryOf
    rw [hc.expiration, hw.clock]
    exact .complete hc.keys _

theorem load_alike (hs : s.Alike L s') (hp : S p p') (h : World.Alike L u u' w w') :
    Ends (SessionKeys.Alike L) (Session.Alike L) (Around L u u' S) (load ask s p w)
      (load ask' s' p' w') := by
  obtain ⟨hc, hq, hw⟩ := ha hp h
  have hh := hs.held
  unfold load
  generalize s.held = held at hh
  generalize s'.held = held' at hh
  cases hh with
  | some hk => exact ⟨.ok hk, hs, hp, h⟩
  | none =>
    dsimp only
    generalize ask p w = r at hc hq hw
    generalize ask' p' w' = r' at hc hq hw
    obtain ⟨answer, x, v⟩ := r
    obtain ⟨answer', x', v'⟩ := r'
    dsimp only at hq hw
    cases hc with
    | error failure => exact ⟨.error _, hs, hq, hw⟩
    | @ok c c' hc =>
      have hk := keysOf_alike hc
      dsimp only
      generalize keysOf c = k at hk
      generalize keysOf c' = k' at hk
      cases hk with
      | error failure => exact ⟨.error _, hs, hq, hw⟩
      | ok hk => exact ⟨.ok hk, ⟨hs.region, hs.view, .some hk⟩, hq, hw⟩

theorem useHeld_alike {k k' : SessionKeys} (hk : k.Alike L k') (hs : s.Alike L s') (hp : S p p')
    (h : World.Alike L u u' w w') :
    Ends (Keys.Alike L) (Session.Alike L) (Around L u u' S) (useHeld ask k s p w)
      (useHeld ask' k' s' p' w') := by
  cases hk with
  | fixed hk => exact ⟨.ok hk, hs, hp, h⟩
  | @leased l l' hl =>
    have hends : Ends (Keys.Alike L) (Lease.Alike L) (Around L u u' S)
        (l.use method (fun (s : σ × World) => s.2.clock) (fetch ask) (p, w))
        (l'.use method (fun (s : σ × World) => s.2.clock) (fetch ask') (p', w')) :=
      hl.use method (fun hq => hq.2.clock) (fetch_alike ha) ⟨hp, h⟩
    exact ⟨hends.answer, ⟨hs.region, hs.view, .some (.leased hends.state)⟩, hends.world⟩

theorem keys_alike (hs : s.Alike L s') (hp : S p p') (h : World.Alike L u u' w w') :
    Ends (Keys.Alike L) (Session.Alike L) (Around L u u' S) (keys ask s p w)
      (keys ask' s' p' w') := by
  obtain ⟨hk, ht, hq⟩ := load_alike ha hs hp h
  unfold keys
  generalize load ask s p w = r at hk ht hq
  generalize load ask' s' p' w' = r' at hk ht hq
  obtain ⟨held, t, x, v⟩ := r
  obtain ⟨held', t', x', v'⟩ := r'
  cases hk with
  | error failure => exact ⟨.error _, ht, hq⟩
  | ok hk => exact useHeld_alike ha hk ht hq.1 hq.2

end Asked

/-! ### Making sessions, and their requests -/

theorem activeRegion_alike (hs : s.Alike L s') (h : World.Alike L u u' w w') :
    (s.activeRegion w).1 = (s'.activeRegion w').1 ∧
      (s.activeRegion w).2.Alike L (s'.activeRegion w').2 := by
  obtain ⟨hr, hv⟩ := ActiveProfile.region_alike hs.view h
  unfold activeRegion
  rw [hs.region]
  cases s'.region with
  | some region => exact ⟨rfl, hs⟩
  | none =>
    dsimp only
    generalize s.view.region w = r at hr hv
    generalize s'.view.region w' = r' at hr hv
    exact ⟨hr, rfl, hv, hs.held⟩

/-- What `create` does once it has the region. -/
def createIn (region : Option String) (w : World) : Step Session :=
  match ActiveProfile.opened {} w with
  | (.error failure, _) => (.error failure, w)
  | (.ok (), view) => (.ok { region, view }, w)

theorem create_none (w : World) : create none w = createIn none w := by
  unfold create createIn
  generalize ActiveProfile.opened = opened
  rfl

theorem create_some (r : RegionProvider) (w : World) : create (some r) w =
    match r.get w with
    | (.error failure, w) => (.error failure, w)
    | (.ok region, w) => createIn (some region) w := by
  unfold create createIn
  generalize ActiveProfile.opened = opened
  dsimp only
  rcases r.get w with ⟨failure | region, v⟩
  · rfl
  · rfl

theorem createIn_alike (region : Option String) (h : World.Alike L u u' w w') :
    Both (Session.Alike L) (createIn region w).1 (createIn region w').1 ∧
      World.Alike L u u' (createIn region w).2 (createIn region w').2 := by
  obtain ⟨ho, hv⟩ := ActiveProfile.opened_alike (.start none) h
  unfold createIn
  generalize ActiveProfile.opened {} w = r at ho hv
  generalize ActiveProfile.opened {} w' = r' at ho hv
  obtain ⟨opened, view⟩ := r
  obtain ⟨opened', view'⟩ := r'
  dsimp only at ho hv
  subst ho
  cases opened with
  | error failure => exact ⟨.error _, h⟩
  | ok _ => exact ⟨.ok ⟨rfl, hv, .none⟩, h⟩

theorem create_alike (region : Option RegionProvider) (h : World.Alike L u u' w w') :
    Both (Session.Alike L) (create region w).1 (create region w').1 ∧
      World.Alike L u u' (create region w).2 (create region w').2 := by
  cases region with
  | none =>
    rw [create_none, create_none]
    exact createIn_alike none h
  | some r =>
    obtain ⟨hr, hw⟩ := r.get_alike h
    rw [create_some, create_some]
    generalize r.get w = g at hr hw
    generalize r.get w' = g' at hr hw
    obtain ⟨answer, v⟩ := g
    obtain ⟨answer', v'⟩ := g'
    dsimp only at hr
    subst hr
    cases answer with
    | error failure =>
      dsimp only
      exact ⟨.error _, hw⟩
    | ok region =>
      dsimp only
      exact createIn_alike (some region) hw

theorem requestIdentity_alike (client : Client) (h : World.Alike L u u' w w') :
    (requestIdentity client w).1 = (requestIdentity client w').1 ∧
      World.Alike L u u' (requestIdentity client w).2 (requestIdentity client w').2 := by
  have hcall := h.call (.callerIdentity client)
  unfold requestIdentity
  rw [h.identity]
  generalize w'.identity.next (.ok {}) = o
  obtain ⟨outcome, rest⟩ := o
  have hw : World.Alike L u u' { w.call (.callerIdentity client) with identity := rest }
      { w'.call (.callerIdentity client) with identity := rest } := { hcall with identity := rfl }
  cases outcome with
  | error failure => exact ⟨rfl, hw⟩
  | ok answer => exact ⟨rfl, hw⟩

theorem clientPlan_alike (hs : s.Alike L s') (h : World.Alike L u u' w w') :
    (s.clientPlan w).1 = (s'.clientPlan w').1 ∧
      (s.clientPlan w).2.Alike L (s'.clientPlan w').2 := by
  obtain ⟨hp, hv⟩ := CloudCredentials.clientPlan_alike s'.region hs.view h
  unfold clientPlan
  rw [hs.region]
  generalize CloudCredentials.clientPlan s.view s'.region w = r at hp hv
  generalize CloudCredentials.clientPlan s'.view s'.region w' = r' at hp hv
  exact ⟨hp, rfl, hv, hs.held⟩

section Requested

variable {σ : Type} {S : σ → σ → Prop} {ask ask' : Asking σ} {p p' : σ}
  (ha : AskedAlike L u u' S ask ask') (hs : s.Alike L s') (hp : S p p')
  (h : World.Alike L u u' w w')

include ha hs hp h

theorem account_alike :
    Ends Eq (Session.Alike L) (Around L u u' S) (account ask s p w) (account ask' s' p' w') := by
  obtain ⟨hplan, ht⟩ := clientPlan_alike hs h
  unfold account
  generalize s.clientPlan w = r at hplan ht
  generalize s'.clientPlan w' = r' at hplan ht
  obtain ⟨plan, t⟩ := r
  obtain ⟨plan', t'⟩ := r'
  dsimp only at hplan ht
  subst hplan
  cases plan with
  | error failure => exact ⟨.error _, ht, hp, h⟩
  | ok plan =>
    obtain ⟨hk, ht, hq⟩ := load_alike ha ht hp h
    dsimp only
    generalize load ask t p w = r at hk ht hq
    generalize load ask' t' p' w' = r' at hk ht hq
    obtain ⟨held, t, x, v⟩ := r
    obtain ⟨held', t', x', v'⟩ := r'
    cases hk with
    | error failure => exact ⟨.error _, ht, hq⟩
    | @ok held held' hk =>
      dsimp only
      rw [plan.endpoint_alike hq.2]
      cases plan.endpoint v' with
      | error failure => exact ⟨.error _, ht, hq⟩
      | ok region =>
        obtain ⟨hkeys, ht, hq⟩ := useHeld_alike ha hk ht hq.1 hq.2
        dsimp only
        generalize useHeld ask held t x v = r at hkeys ht hq
        generalize useHeld ask' held' t' x' v' = r' at hkeys ht hq
        obtain ⟨keys, t, x, v⟩ := r
        obtain ⟨keys', t', x', v'⟩ := r'
        cases hkeys with
        | error failure => exact ⟨.error _, ht, hq⟩
        | @ok keys keys' hkeys =>
          obtain ⟨hanswer, hw⟩ := requestIdentity_alike ⟨region, .signed keys'.accessKey⟩ hq.2
          dsimp only at hanswer hw ⊢
          rw [hkeys.accessKey, hanswer]
          exact ⟨.refl (fun _ => rfl) _, ht, hq.1, hw⟩

theorem validate_alike :
    Ends Eq (Session.Alike L) (Around L u u' S) (validate ask s p w)
      (validate ask' s' p' w') := by
  obtain ⟨hanswer, ht, hq⟩ := account_alike ha hs hp h
  unfold validate
  generalize account ask s p w = r at hanswer ht hq
  generalize account ask' s' p' w' = r' at hanswer ht hq
  obtain ⟨answer, t, x, v⟩ := r
  obtain ⟨answer', t', x', v'⟩ := r'
  dsimp only at ht hq
  cases hanswer with
  | ok _ => exact ⟨.ok rfl, ht, hq⟩
  | error failure =>
    dsimp only
    split
    · exact ⟨.ok rfl, ht, hq.1, hq.2.record ..⟩
    · exact ⟨.error _, ht, hq⟩

end Requested

end Session

end CloudCredentials
