import CloudCredentials.Proofs.AlikeSessions

/-!
# Secrets are not seen

A caller makes providers and sessions and uses them, in any order and as often as it likes. What it
sees does not depend on secrets: two callers that do the same in worlds that differ in secrets only
see the same, and leave the same calls and the same records.
-/

namespace CloudCredentials

/-! ### Making providers -/

/-- What a single provider is made of, or the settings that a provider is selected for. -/
inductive Part
  | keys (k : Keys)
  | metadata
  | profile (name : String) (file : Option FileName)
  | federation (parameters : WebIdentity) (interval : Int)
  | standard (name : Option String)
  | settings (available : Option Bool) (region : RegionProvider)
    (properties : CredentialsProperties)

def Part.make : Part → World → Step Provider
  | .keys k, w => ((Source.ofKeys k).map .leaf, w)
  | .metadata, w => (.ok (.leaf .ofInstance), w)
  | .profile name file, w => ((Source.ofProfile w.environment.home name file).map .leaf, w)
  | .federation parameters interval, w => (.ok (.leaf (.ofWebIdentity parameters interval)), w)
  | .standard name, w => (.ok (.leaf (.ofStandard name)), w)
  | .settings available region properties, w =>
    Selection.resolve available region.get unsignedFactory properties w

/-- A plan for a provider: chains are made of what their members' plans make. -/
abbrev Plan := Tree Part

namespace Plan

mutual

def make : Tree Part → World → Step Provider
  | .leaf part, w => part.make w
  | .chain members, w =>
    match makeAll members w with
    | (.error failure, w) => (.error failure, w)
    | (.ok members, w) => (Tree.ofMembers members, w)

def makeAll : List (Tree Part) → World → Step (List Provider)
  | [], w => (.ok [], w)
  | t :: rest, w =>
    match make t w with
    | (.error failure, w) => (.error failure, w)
    | (.ok p, w) =>
      match makeAll rest w with
      | (.error failure, w) => (.error failure, w)
      | (.ok rest, w) => (.ok (p :: rest), w)

end

end Plan

/-! ### What is seen -/

/-- What is seen of a provider. -/
structure ProviderSight where
  name : String
  kindName : String
  shown : String
  lines : List String
  deriving DecidableEq, Repr

def Provider.sight (p : Provider) : ProviderSight := ⟨p.name, p.kindName, p.shown, p.describe⟩

/-- What is seen of credentials: all but the secrets. -/
structure CredentialsSight where
  accessKey : Datum
  expiration : Option Time.Timestamp
  provider : Option String
  shown : String
  deriving DecidableEq, Repr

def Credentials.sight (c : Credentials) : CredentialsSight :=
  ⟨c.keys.accessKey, c.expiration, c.provider, c.shown⟩

/-- What is seen of the keys of a session. -/
structure KeysSight where
  accessKey : Datum
  expiration : Option Time.Timestamp
  renewing : Bool
  deriving DecidableEq, Repr

def Session.sight (s : Session) (keys : Keys) : KeysSight :=
  ⟨keys.accessKey, s.expiration, s.isRenewing⟩

/-! ### Callers -/

/-- The providers that a caller has made, and its sessions with the places of the providers that
they use. -/
structure Caller where
  providers : List Provider := []
  sessions : List (Nat × Session) := []
  world : World

namespace Caller

inductive Request
  | make (plan : Plan)
  | describe (i : Nat)
  | resolve (i : Nat)
  | close (i : Nat)
  | tick (i place : Nat)
  | session (i : Nat) (region : Option RegionProvider)
  | keys (j : Nat)
  | account (j : Nat)
  | validate (j : Nat)
  | around (e : Event)

/-- What is seen of the answer to a request. Failures are seen as they are, with everything that
they hold. -/
inductive Reply
  | nothing
  | provider (answer : Except Failure ProviderSight)
  | credentials (answer : Except Failure CredentialsSight)
  | session (region : Except Failure (Option String))
  | keys (answer : Except Failure KeysSight)
  | account (answer : Except Failure Session.Account)
  | validity (answer : Except Failure Bool)

def onProvider (c : Caller) (i : Nat) (f : Provider → World → Reply × Provider × World) :
    Reply × Caller :=
  match c.providers[i]? with
  | none => (.nothing, c)
  | some p =>
    let (reply, p, w) := f p c.world
    (reply, { c with providers := c.providers.set i p, world := w })

def onSession (c : Caller) (j : Nat)
    (f : Session → Provider → World → Reply × Session × Provider × World) : Reply × Caller :=
  match c.sessions[j]? with
  | none => (.nothing, c)
  | some (i, s) =>
    match c.providers[i]? with
    | none => (.nothing, c)
    | some p =>
      let (reply, s, p, w) := f s p c.world
      (reply, ⟨c.providers.set i p, c.sessions.set j (i, s), w⟩)

def make (c : Caller) (plan : Plan) : Reply × Caller :=
  match Plan.make plan c.world with
  | (.error failure, w) => (.provider (.error failure), { c with world := w })
  | (.ok p, w) =>
    (.provider (.ok p.sight), { c with providers := c.providers ++ [p], world := w })

def openSession (c : Caller) (i : Nat) (region : Option RegionProvider) : Reply × Caller :=
  match Session.create region c.world with
  | (.error failure, w) => (.session (.error failure), { c with world := w })
  | (.ok s, w) =>
    let (name, s) := s.activeRegion w
    (.session name, { c with sessions := c.sessions ++ [(i, s)], world := w })

def step (r : Request) (c : Caller) : Reply × Caller :=
  match r with
  | .make plan => c.make plan
  | .describe i => c.onProvider i fun p w => (.provider (.ok p.sight), p, w)
  | .resolve i => c.onProvider i fun p w =>
    let (answer, p, w) := p.resolve w
    (.credentials (answer.map Credentials.sight), p, w)
  | .close i => c.onProvider i fun p w => (.nothing, p.close w)
  | .tick i place => c.onProvider i fun p w => (.nothing, Tree.actAt Source.tick place p w)
  | .session i region => if i < c.providers.length then c.openSession i region else (.nothing, c)
  | .keys j => c.onSession j fun s p w =>
    let (answer, s, p, w) := s.keys Provider.resolve p w
    (.keys (answer.map s.sight), s, p, w)
  | .account j => c.onSession j fun s p w =>
    let (answer, s, p, w) := s.account Provider.resolve p w
    (.account answer, s, p, w)
  | .validate j => c.onSession j fun s p w =>
    let (answer, s, p, w) := s.validate Provider.resolve p w
    (.validity answer, s, p, w)
  | .around e => (.nothing, { c with world := e.around c.world })

def run : List Request → Caller → List Reply × Caller
  | [], c => ([], c)
  | r :: rest, c =>
    let (reply, c) := step r c
    let (replies, c) := run rest c
    (reply :: replies, c)

end Caller

/-! ### Callers that differ in secrets -/

inductive Part.Alike (L : Likeness) : Part → Part → Prop
  | keys {k k' : Keys} (h : k.Alike L k') : Alike L (.keys k) (.keys k')
  | metadata : Alike L .metadata .metadata
  | profile (name : String) (file : Option FileName) :
    Alike L (.profile name file) (.profile name file)
  | federation {p p' : WebIdentity} (h : p.Alike L p') (interval : Int) :
    Alike L (.federation p interval) (.federation p' interval)
  | standard (name : Option String) : Alike L (.standard name) (.standard name)
  | settings {p p' : CredentialsProperties} (available : Option Bool) (region : RegionProvider)
    (h : p.Alike L p') :
    Alike L (.settings available region p) (.settings available region p')

/-- The same change of the surroundings, but for secrets in files, in what services answer and in
what the SDK finds elsewhere. -/
inductive Event.Alike (L : Likeness) : Event → Event → Prop
  | advance (micros : Nat) : Alike L (.advance micros) (.advance micros)
  | environment {e : Environment}
    (h : ∀ {file}, e.get? "AWS_WEB_IDENTITY_TOKEN_FILE" = some file → L.isOpen file) :
    Alike L (.environment e) (.environment e)
  | files {f f' : Files} (h : f.Alike L f') : Alike L (.files f) (.files f')
  | scripts {m m' : Script (Outcome MetadataAnswer)} {r r' : Script (Outcome RoleAnswer)}
    (hm : List.Forall₂ (Both (MetadataAnswer.Alike L)) m m')
    (hr : List.Forall₂ (Both (RoleAnswer.Alike L)) r r') :
    Alike L (.scripts m r) (.scripts m' r')
  | sdk {k k' : Script (Option Look)} {d d' : Script (Except Failure Delivery)}
    (hk : List.Forall₂ (Look.Alike L) k k') (hd : List.Forall₂ (Both (Delivery.Alike L)) d d')
    (clients : ClientRules) : Alike L (.sdk k d clients) (.sdk k' d' clients)
  | support (webIdentity : Bool) : Alike L (.support webIdentity) (.support webIdentity)

inductive Caller.Request.Alike (L : Likeness) : Request → Request → Prop
  | make {plan plan' : Plan} (h : Tree.Alike (Part.Alike L) plan plan') :
    Alike L (.make plan) (.make plan')
  | describe (i : Nat) : Alike L (.describe i) (.describe i)
  | resolve (i : Nat) : Alike L (.resolve i) (.resolve i)
  | close (i : Nat) : Alike L (.close i) (.close i)
  | tick (i place : Nat) : Alike L (.tick i place) (.tick i place)
  | session (i : Nat) (region : Option RegionProvider) :
    Alike L (.session i region) (.session i region)
  | keys (j : Nat) : Alike L (.keys j) (.keys j)
  | account (j : Nat) : Alike L (.account j) (.account j)
  | validate (j : Nat) : Alike L (.validate j) (.validate j)
  | around {e e' : Event} (h : e.Alike L e') : Alike L (.around e) (.around e')

/-- Callers with alike providers and alike sessions in alike worlds. -/
structure Caller.Alike (L : Likeness) (u u' : World) (c c' : Caller) : Prop where
  providers : List.Forall₂ (Provider.Alike L) c.providers c'.providers
  sessions : List.Forall₂ (fun e e' => e.1 = e'.1 ∧ e.2.Alike L e'.2) c.sessions c'.sessions
  world : World.Alike L u u' c.world c'.world

section Entries

variable {α β : Type} {R : α → β → Prop} {l : List α} {l' : List β}

theorem rel_getElem? (h : List.Forall₂ R l l') (i : Nat) : Option.Rel R l[i]? l'[i]? := by
  induction h generalizing i with
  | nil => exact .none
  | cons hab _ ih =>
    cases i with
    | zero => exact .some hab
    | succ i => exact ih i

theorem rel_set {a : α} {b : β} (h : List.Forall₂ R l l') (i : Nat) (hab : R a b) :
    List.Forall₂ R (l.set i a) (l'.set i b) := by
  induction h generalizing i with
  | nil => exact .nil
  | cons hx hrest ih =>
    cases i with
    | zero => exact .cons hab hrest
    | succ i => exact .cons hx (ih i)

end Entries

variable {L : Likeness} {u u' w w' : World}

/-! ### Plans -/

theorem Part.make_alike {part part' : Part} (hp : part.Alike L part')
    (h : World.Alike L u u' w w') :
    Both (Provider.Alike L) (part.make w).1 (part'.make w').1 ∧
      World.Alike L u u' (part.make w).2 (part'.make w').2 := by
  cases hp with
  | keys hk => exact ⟨(Source.ofKeys_alike hk).map .leaf, h⟩
  | metadata => exact ⟨.ok (.leaf (.instanceProfile ⟨rfl, .none⟩)), h⟩
  | profile name file =>
    dsimp only [make]
    rw [h.environment]
    exact ⟨(Source.ofProfile_alike _ _ _).map .leaf, h⟩
  | @federation p p' hp interval =>
    obtain rfl := hp.eq
    exact ⟨.ok (.leaf (.webIdentity ⟨hp, .none⟩ _)), h⟩
  | standard name => exact ⟨.ok (.leaf (.standard ⟨.start name, .none⟩)), h⟩
  | settings available region hp => exact Selection.resolve_alike available region hp h

theorem Tree.ofMembers_alike {members members' : List Provider}
    (h : List.Forall₂ (Provider.Alike L) members members') :
    Both (Provider.Alike L) (Tree.ofMembers members) (Tree.ofMembers members') := by
  cases h with
  | nil => exact .error _
  | cons hm hrest => exact .ok (.chain (.cons hm hrest))

namespace Plan

theorem makeAll_alike {members members' : List Plan}
    (hm : List.Forall₂ (fun m m' => Tree.Alike (Part.Alike L) m m' ∧
      ∀ {w w'}, World.Alike L u u' w w' → Both (Provider.Alike L) (make m w).1 (make m' w').1 ∧
        World.Alike L u u' (make m w).2 (make m' w').2) members members')
    (h : World.Alike L u u' w w') :
    Both (List.Forall₂ (Provider.Alike L)) (makeAll members w).1 (makeAll members' w').1 ∧
      World.Alike L u u' (makeAll members w).2 (makeAll members' w').2 := by
  induction hm generalizing w w' with
  | nil => exact ⟨.ok .nil, h⟩
  | @cons t t' rest rest' ht _ ih =>
    obtain ⟨hp, hw⟩ := ht.2 h
    simp only [makeAll]
    generalize make t w = r at hp hw
    generalize make t' w' = r' at hp hw
    obtain ⟨made, v⟩ := r
    obtain ⟨made', v'⟩ := r'
    cases hp with
    | error failure => exact ⟨.error _, hw⟩
    | ok hp =>
      obtain ⟨hrest, hv⟩ := ih hw
      dsimp only at hrest hv ⊢
      generalize makeAll rest v = r at hrest hv
      generalize makeAll rest' v' = r' at hrest hv
      obtain ⟨others, x⟩ := r
      obtain ⟨others', x'⟩ := r'
      cases hrest with
      | error failure => exact ⟨.error _, hv⟩
      | ok hrest => exact ⟨.ok (.cons hp hrest), hv⟩

theorem make_alike {plan plan' : Plan} (hp : Tree.Alike (Part.Alike L) plan plan')
    (h : World.Alike L u u' w w') :
    Both (Provider.Alike L) (make plan w).1 (make plan' w').1 ∧
      World.Alike L u u' (make plan w).2 (make plan' w').2 := by
  refine hp.inductionOn (P := fun plan plan' => ∀ {w w'}, World.Alike L u u' w w' →
    Both (Provider.Alike L) (make plan w).1 (make plan' w').1 ∧
      World.Alike L u u' (make plan w).2 (make plan' w').2) ?_ ?_ h
  · intro part part' hp w w' h
    exact Part.make_alike hp h
  · intro members members' hm w w' h
    obtain ⟨hall, hw⟩ := makeAll_alike hm h
    simp only [make]
    generalize makeAll members w = r at hall hw
    generalize makeAll members' w' = r' at hall hw
    obtain ⟨made, v⟩ := r
    obtain ⟨made', v'⟩ := r'
    cases hall with
    | error failure => exact ⟨.error _, hw⟩
    | ok hall => exact ⟨Tree.ofMembers_alike hall, hw⟩

end Plan

/-! ### What is seen is the same -/

theorem Provider.kindName_alike {p p' : Provider} (hp : p.Alike L p') :
    p.kindName = p'.kindName := by
  cases hp with
  | leaf hs => cases hs <;> rfl
  | chain _ => rfl

theorem Provider.sight_alike {p p' : Provider} (hp : p.Alike L p') : p.sight = p'.sight := by
  simp only [sight, name_alike hp, kindName_alike hp, shown_alike hp, describe_alike hp]

theorem Credentials.sight_alike {c c' : Credentials} (hc : c.Alike L c') : c.sight = c'.sight := by
  have hshown : c.shown = c'.shown :=
    shown_eq_of_accessKey hc.keys.accessKey hc.expiration hc.provider
  simp only [sight, hc.keys.accessKey, hc.expiration, hc.provider, hshown]

theorem Session.sight_alike {s s' : Session} {k k' : Keys} (hs : s.Alike L s')
    (hk : k.Alike L k') : s.sight k = s'.sight k' := by
  simp only [sight, hk.accessKey, hs.expiration, hs.isRenewing]

theorem Event.around_alike {e e' : Event} (he : e.Alike L e') (h : World.Alike L u u' w w') :
    World.Alike L u u' (e.around w) (e'.around w') := by
  cases he with
  | advance micros => exact { h with clock := congrArg (· + _) h.clock }
  | environment ho => exact { h with environment := rfl, tokenFile := ho }
  | files hf => exact { h with files := hf }
  | scripts hm hr => exact { h with metadata := hm, roles := hr }
  | sdk hk hd clients => exact { h with looks := hk, renewals := hd, clients := rfl }
  | support webIdentity => exact { h with webIdentity := rfl }

namespace Caller

variable {c c' : Caller}

theorem onProvider_alike (hc : c.Alike L u u' c') (i : Nat)
    {f f' : Provider → World → Reply × Provider × World}
    (hf : ∀ {p p' w w'}, Provider.Alike L p p' → World.Alike L u u' w w' →
      (f p w).1 = (f' p' w').1 ∧ Provider.Alike L (f p w).2.1 (f' p' w').2.1 ∧
        World.Alike L u u' (f p w).2.2 (f' p' w').2.2) :
    (c.onProvider i f).1 = (c'.onProvider i f').1 ∧
      (c.onProvider i f).2.Alike L u u' (c'.onProvider i f').2 := by
  have hp := rel_getElem? hc.providers i
  unfold onProvider
  generalize c.providers[i]? = p at hp
  generalize c'.providers[i]? = p' at hp
  cases hp with
  | none => exact ⟨rfl, hc⟩
  | some hp =>
    obtain ⟨hreply, hq, hw⟩ := hf hp hc.world
    exact ⟨hreply, rel_set hc.providers i hq, hc.sessions, hw⟩

theorem onSession_alike (hc : c.Alike L u u' c') (j : Nat)
    {f f' : Session → Provider → World → Reply × Session × Provider × World}
    (hf : ∀ {s s' p p' w w'}, s.Alike L s' → Provider.Alike L p p' → World.Alike L u u' w w' →
      (f s p w).1 = (f' s' p' w').1 ∧ (f s p w).2.1.Alike L (f' s' p' w').2.1 ∧
        Provider.Alike L (f s p w).2.2.1 (f' s' p' w').2.2.1 ∧
          World.Alike L u u' (f s p w).2.2.2 (f' s' p' w').2.2.2) :
    (c.onSession j f).1 = (c'.onSession j f').1 ∧
      (c.onSession j f).2.Alike L u u' (c'.onSession j f').2 := by
  have hs := rel_getElem? hc.sessions j
  unfold onSession
  generalize c.sessions[j]? = e at hs
  generalize c'.sessions[j]? = e' at hs
  cases hs with
  | none => exact ⟨rfl, hc⟩
  | @some e e' hs =>
    obtain ⟨i, s⟩ := e
    obtain ⟨i', s'⟩ := e'
    obtain ⟨hi, hs⟩ := hs
    dsimp only at hi hs ⊢
    subst hi
    have hp := rel_getElem? hc.providers i
    generalize c.providers[i]? = p at hp
    generalize c'.providers[i]? = p' at hp
    cases hp with
    | none => exact ⟨rfl, hc⟩
    | some hp =>
      obtain ⟨hreply, ht, hq, hw⟩ := hf hs hp hc.world
      exact ⟨hreply, rel_set hc.providers i hq, rel_set hc.sessions j ⟨rfl, ht⟩, hw⟩

theorem make_alike (hc : c.Alike L u u' c') {plan plan' : Plan}
    (hp : Tree.Alike (Part.Alike L) plan plan') :
    (c.make plan).1 = (c'.make plan').1 ∧ (c.make plan).2.Alike L u u' (c'.make plan').2 := by
  obtain ⟨hm, hw⟩ := Plan.make_alike hp hc.world
  unfold make
  generalize Plan.make plan c.world = r at hm hw
  generalize Plan.make plan' c'.world = r' at hm hw
  obtain ⟨made, v⟩ := r
  obtain ⟨made', v'⟩ := r'
  cases hm with
  | error failure => exact ⟨rfl, hc.providers, hc.sessions, hw⟩
  | ok hm =>
    dsimp only
    rw [Provider.sight_alike hm]
    exact ⟨rfl, List.rel_append hc.providers (.cons hm .nil), hc.sessions, hw⟩

theorem openSession_alike (hc : c.Alike L u u' c') (i : Nat) (region : Option RegionProvider) :
    (c.openSession i region).1 = (c'.openSession i region).1 ∧
      (c.openSession i region).2.Alike L u u' (c'.openSession i region).2 := by
  obtain ⟨hs, hw⟩ := Session.create_alike region hc.world
  unfold openSession
  generalize Session.create region c.world = r at hs hw
  generalize Session.create region c'.world = r' at hs hw
  obtain ⟨made, v⟩ := r
  obtain ⟨made', v'⟩ := r'
  dsimp only at hw
  cases hs with
  | error failure => exact ⟨rfl, hc.providers, hc.sessions, hw⟩
  | @ok s s' hs =>
    obtain ⟨hr, ht⟩ := Session.activeRegion_alike hs hw
    dsimp only
    generalize s.activeRegion v = a at hr ht
    generalize s'.activeRegion v' = a' at hr ht
    obtain ⟨name, t⟩ := a
    obtain ⟨name', t'⟩ := a'
    dsimp only at hr ht
    subst hr
    exact ⟨rfl, hc.providers, List.rel_append hc.sessions (.cons ⟨rfl, ht⟩ .nil), hw⟩

theorem step_alike {r r' : Request} (hr : r.Alike L r') (hc : c.Alike L u u' c') :
    (step r c).1 = (step r' c').1 ∧ (step r c).2.Alike L u u' (step r' c').2 := by
  cases hr with
  | make hp => exact make_alike hc hp
  | describe i =>
    refine onProvider_alike hc i fun hp h => ⟨?_, hp, h⟩
    rw [Provider.sight_alike hp]
  | resolve i =>
    refine onProvider_alike hc i fun hp h => ?_
    obtain ⟨ha, hp, hw⟩ := Provider.resolve_alike hp h
    exact ⟨congrArg Reply.credentials (ha.map Credentials.sight_alike).eq, hp, hw⟩
  | close i =>
    refine onProvider_alike hc i fun hp h => ⟨rfl, ?_⟩
    exact Provider.close_alike hp h
  | tick i place =>
    refine onProvider_alike hc i fun hp h => ⟨rfl, ?_⟩
    exact Provider.tick_alike hp h place
  | session i region =>
    dsimp only [step]
    rw [hc.providers.length_eq]
    split
    · exact openSession_alike hc i region
    · exact ⟨rfl, hc⟩
  | keys j =>
    refine onSession_alike hc j fun hs hp h => ?_
    obtain ⟨hk, ht, hq⟩ := Session.keys_alike Provider.resolve_alike hs hp h
    exact ⟨congrArg Reply.keys (hk.map (Session.sight_alike ht)).eq, ht, hq.1, hq.2⟩
  | account j =>
    refine onSession_alike hc j fun hs hp h => ?_
    obtain ⟨ha, ht, hq⟩ := Session.account_alike Provider.resolve_alike hs hp h
    exact ⟨congrArg Reply.account ha.eq, ht, hq.1, hq.2⟩
  | validate j =>
    refine onSession_alike hc j fun hs hp h => ?_
    obtain ⟨ha, ht, hq⟩ := Session.validate_alike Provider.resolve_alike hs hp h
    exact ⟨congrArg Reply.validity ha.eq, ht, hq.1, hq.2⟩
  | around he => exact ⟨rfl, hc.providers, hc.sessions, Event.around_alike he hc.world⟩

theorem run_alike {rs rs' : List Request} (hr : List.Forall₂ (Request.Alike L) rs rs')
    (hc : c.Alike L u u' c') :
    (run rs c).1 = (run rs' c').1 ∧ (run rs c).2.Alike L u u' (run rs' c').2 := by
  induction hr generalizing c c' with
  | nil => exact ⟨rfl, hc⟩
  | cons hr _ ih =>
    obtain ⟨hreply, hstep⟩ := step_alike hr hc
    obtain ⟨hreplies, hrun⟩ := ih hstep
    exact ⟨congrArg₂ List.cons hreply hreplies, hrun⟩

end Caller

/-- Secrets are alike when both are empty or neither is; the open files hold none. -/
def Likeness.veiled (isOpen : String → Prop) : Likeness :=
  ⟨fun d d' => d.isEmpty = d'.isEmpty, isOpen, fun _ => rfl, fun h => h⟩

/-- Secrets are not seen: when two callers make the same requests in the same world, but for
secrets, which are empty in one when they are in the other, the replies are the same, and the calls
and the records that follow are the same. -/
theorem Caller.run_unseen {isOpen : String → Prop} {rs rs' : List Request} {w w' : World}
    (hr : List.Forall₂ (Request.Alike (.veiled isOpen)) rs rs')
    (hw : World.Alike (.veiled isOpen) w w' w w') :
    (run rs { world := w }).1 = (run rs' { world := w' }).1 ∧
      (∃ made, (run rs { world := w }).2.world.calls = w.calls ++ made ∧
        (run rs' { world := w' }).2.world.calls = w'.calls ++ made) ∧
      ∃ written, (run rs { world := w }).2.world.log = w.log ++ written ∧
        (run rs' { world := w' }).2.world.log = w'.log ++ written := by
  have hc : Caller.Alike (.veiled isOpen) w w' { world := w } { world := w' } := ⟨.nil, .nil, hw⟩
  obtain ⟨hreplies, hend⟩ := run_alike hr hc
  exact ⟨hreplies, hend.world.calls, hend.world.log⟩

/-- A file with the keys of a profile. -/
def keysFile (secret : String) : List UInt8 :=
  asciiBytes ("[dev]\naws_access_key_id = AKIADEV\naws_secret_access_key = " ++ secret)

def World.withSecret (secret : String) : World where
  files := [(["keys"], .file (keysFile secret))]
  metadata := [.error fun _ => .metadata "no role"]
  roles := [.ok (.complete ⟨.text "ASIAROLE", .text secret, .text secret⟩ (.after Time.hour))]

def Caller.withSecret (secret : String) : List Request :=
  [.make (.chain [.leaf .metadata, .leaf (.profile "dev" (some (.text "keys"))),
      .leaf (.keys ⟨.text "AKIAFIXED", .text secret, .absent⟩)]),
    .resolve 0, .session 0 (some (.fixed "eu-west-1")), .around (.advance 60), .account 0, .keys 0]

theorem World.withSecret_alike : World.Alike (.veiled fun _ => False) (withSecret "one")
    (withSecret "other") (withSecret "one") (withSecret "other") := by
  have hone : ProfileFile.parse (keysFile "one") = some [("dev",
      [("aws_access_key_id", .text "AKIADEV"), ("aws_secret_access_key", .text "one")])] := rfl
  have hother : ProfileFile.parse (keysFile "other") = some [("dev",
      [("aws_access_key_id", .text "AKIADEV"), ("aws_secret_access_key", .text "other")])] := rfl
  have hsections : Option.Rel (ProfileFile.SectionsAlike (.veiled fun _ => False))
      (ProfileFile.parse (keysFile "one")) (ProfileFile.parse (keysFile "other")) := by
    rw [hone, hother]
    exact .some (.cons ⟨rfl, .cons ⟨rfl, .of_eq _, fun h => absurd h (by decide)⟩
      (.cons ⟨rfl, rfl, fun h => absurd h (by decide)⟩ .nil)⟩ .nil)
  exact {
    environment := rfl
    tokenFile := fun h => by cases h
    files := .of_entries (.cons ⟨rfl, .file hsections⟩ .nil) False.elim
    clock := rfl
    metadata := .cons (.error _) .nil
    roles := .cons (.ok (.some ⟨rfl, .some rfl, .some rfl, rfl⟩)) .nil
    identity := rfl
    looks := .nil
    renewals := .nil
    clients := rfl
    webIdentity := rfl
    calls := ⟨[], rfl, rfl⟩
    log := ⟨[], rfl, rfl⟩ }

/-- A chain whose second member has the keys, and a session that uses it. -/
theorem Caller.run_unseen_dev :
    (run (withSecret "one") { world := .withSecret "one" }).1 =
        (run (withSecret "other") { world := .withSecret "other" }).1 ∧
      (∃ made, (run (withSecret "one") { world := .withSecret "one" }).2.world.calls = [] ++ made ∧
        (run (withSecret "other") { world := .withSecret "other" }).2.world.calls = [] ++ made) ∧
      ∃ written, (run (withSecret "one") { world := .withSecret "one" }).2.world.log =
          [] ++ written ∧
        (run (withSecret "other") { world := .withSecret "other" }).2.world.log =
          [] ++ written := by
  have hplan : Tree.Alike (Part.Alike (.veiled fun _ => False))
      (.chain [.leaf .metadata, .leaf (.profile "dev" (some (.text "keys"))),
        .leaf (.keys ⟨.text "AKIAFIXED", .text "one", .absent⟩)])
      (.chain [.leaf .metadata, .leaf (.profile "dev" (some (.text "keys"))),
        .leaf (.keys ⟨.text "AKIAFIXED", .text "other", .absent⟩)]) :=
    .chain (.cons (.leaf .metadata) (.cons (.leaf (.profile _ _))
      (.cons (.leaf (.keys ⟨rfl, rfl, rfl⟩)) .nil)))
  have hr : List.Forall₂ (Request.Alike (.veiled fun _ => False)) (withSecret "one")
      (withSecret "other") :=
    .cons (.make hplan) (.cons (.resolve 0) (.cons (.session 0 _) (.cons (.around (.advance 60))
      (.cons (.account 0) (.cons (.keys 0) .nil)))))
  exact run_unseen hr World.withSecret_alike

end CloudCredentials
