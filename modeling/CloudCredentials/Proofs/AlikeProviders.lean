import CloudCredentials.Proofs.AlikeSources
import CloudCredentials.Proofs.ProviderRun
import CloudCredentials.Proofs.TreeAlike

/-!
# Providers that are alike

Trees of the same shape whose sources are alike. They have the same names and descriptions, and
they answer alike when they are asked in alike worlds, which includes the failures that a chain
collects. Background tasks keep them alike, and so does closing them.
-/

namespace CloudCredentials

variable {L : Likeness} {u u' w w' : World}

/-! ### Sources -/

structure ScriptedAnswer.Alike (L : Likeness) (a a' : ScriptedAnswer) : Prop where
  keys : a.keys.Alike L a'.keys
  expiry : a.expiry = a'.expiry
  provider : a.provider = a'.provider

/-- Sources of one kind with the same settings but for secrets, which hold what is alike. -/
inductive Source.Alike (L : Likeness) : Source → Source → Prop
  | fixed {k k' : Keys} (h : k.Alike L k') : Alike L (.fixed k) (.fixed k')
  | instanceProfile {s s' : Backed Unit Lease} (h : s.Alike Eq (Lease.Alike L) s') :
    Alike L (.instanceProfile s) (.instanceProfile s')
  | profile {s s' : Backed NamedProfile Keys} (h : s.Alike Eq (Keys.Alike L) s') :
    Alike L (.profile s) (.profile s')
  | webIdentity {s s' : Backed WebIdentity AssumedRole}
    (h : s.Alike (WebIdentity.Alike L) (AssumedRole.Alike L) s') (refresher : Refresher) :
    Alike L (.webIdentity s refresher) (.webIdentity s' refresher)
  | standard {s s' : Backed ActiveProfile StandardKeys}
    (h : s.Alike (ActiveProfile.Alike L) (StandardKeys.Alike L) s') :
    Alike L (.standard s) (.standard s')
  | scripted {a a' : Script (Except Failure ScriptedAnswer)} (name : String)
    (h : List.Forall₂ (Both (ScriptedAnswer.Alike L)) a a') :
    Alike L (.scripted name a) (.scripted name a')

theorem InstanceProfile.backing_alike :
    Backing.Alike L u u' Eq (Lease.Alike L) backing backing where
  load _ h := ⟨(load_alike h).1, rfl, (load_alike h).2⟩
  use hk h := use_alike hk h
  expiration hk := hk.expiry

theorem NamedProfile.backing_alike :
    Backing.Alike L u u' Eq (Keys.Alike L) backing backing where
  load hp h := by
    subst hp
    exact ⟨(load_alike _ h).1, rfl, (load_alike _ h).2⟩
  use hk h := ⟨.ok hk, hk, h⟩
  expiration _ := rfl

theorem WebIdentity.backing_alike (client : Client) :
    Backing.Alike L u u' (WebIdentity.Alike L) (AssumedRole.Alike L) (backing client)
      (backing client) where
  load hp h := by
    obtain rfl := hp.eq
    exact ⟨(load_alike hp h).map .some, hp, h⟩
  use hk h := AssumedRole.use_alike (fun _ => rfl) hk h
  expiration hk := hk.lease.expiry

theorem Standard.backing_alike :
    Backing.Alike L u u' (ActiveProfile.Alike L) (StandardKeys.Alike L) backing backing :=
  ⟨load_alike, use_alike, expiration_alike⟩

namespace Source

variable {s s' : Source}

theorem Alike.name (hs : s.Alike L s') : s.name = s'.name := by
  cases hs <;> rfl

theorem Alike.shown (hs : s.Alike L s') : s.shown = s'.shown := by
  cases hs with
  | fixed hk => simp only [Source.shown, hk.accessKey]
  | instanceProfile h => rfl
  | profile h => exact congrArg NamedProfile.shown h.parameters
  | webIdentity h refresher => exact congrArg WebIdentity.shown h.parameters.eq
  | standard h => rfl
  | scripted name h => rfl

theorem ask_alike (hs : s.Alike L s') (h : World.Alike L u u' w w') :
    Ends (Credentials.Alike L) (Source.Alike L) (World.Alike L u u') (s.ask w) (s'.ask w') := by
  cases hs with
  | fixed hk => exact ⟨.ok ⟨hk, rfl, rfl⟩, .fixed hk, h⟩
  | instanceProfile hs =>
    obtain ⟨ha, hs, hw⟩ := Backed.ask_alike InstanceProfile.name InstanceProfile.shown
      InstanceProfile.backing_alike hs h
    exact ⟨ha, .instanceProfile hs, hw⟩
  | @profile p p' hs =>
    obtain ⟨ha, hs', hw⟩ := Backed.ask_alike NamedProfile.name p'.parameters.shown
      NamedProfile.backing_alike hs h
    dsimp only [ask]
    rw [hs.parameters]
    exact ⟨ha, .profile hs', hw⟩
  | @webIdentity p p' hs refresher =>
    obtain ⟨ha, hs', hw⟩ := Backed.ask_alike WebIdentity.name p'.parameters.shown
      (WebIdentity.backing_alike p'.parameters.client) hs h
    dsimp only [ask]
    rw [hs.parameters.eq]
    exact ⟨ha, .webIdentity hs' refresher, hw⟩
  | standard hs =>
    obtain ⟨ha, hs, hw⟩ := Backed.ask_alike Standard.name Standard.shown
      Standard.backing_alike hs h
    exact ⟨ha, .standard hs, hw⟩
  | @scripted a a' name hs =>
    have hd : Both (ε := Failure) (ScriptedAnswer.Alike L)
        (.ok ⟨⟨.absent, .absent, .absent⟩, none, none⟩)
        (.ok ⟨⟨.absent, .absent, .absent⟩, none, none⟩) := .ok ⟨.refl _, rfl, rfl⟩
    obtain ⟨hnext, hrest⟩ := next_alike hs hd
    refine ⟨hnext.map fun hx => ⟨hx.keys, ?_, hx.provider⟩, .scripted name hrest, h.call _⟩
    simp only [scriptedCredentials, hx.expiry, h.clock]

theorem close_alike (hs : s.Alike L s') (h : World.Alike L u u' w w') :
    (s.close w).1.Alike L (s'.close w').1 ∧ World.Alike L u u' (s.close w).2 (s'.close w').2 := by
  cases hs with
  | fixed hk => exact ⟨.fixed hk, h⟩
  | instanceProfile hs => exact ⟨.instanceProfile hs, h⟩
  | profile hs => exact ⟨.profile hs, h⟩
  | webIdentity hs refresher => exact ⟨.webIdentity hs _, h⟩
  | standard hs => exact ⟨.standard hs, h⟩
  | scripted name hs => exact ⟨.scripted name hs, h.call _⟩

end Source

theorem Source.tick_alike {s s' : Source} (hs : s.Alike L s') (h : World.Alike L u u' w w') :
    (s.tick w).1.Alike L (s'.tick w').1 ∧ World.Alike L u u' (s.tick w).2 (s'.tick w').2 := by
  cases id hs with
  | webIdentity _ refresher =>
    obtain ⟨_, hs, hw⟩ := Background.tick_alike
      (fun level channel text h => h.record level channel text) (ask_alike hs h)
    exact ⟨hs, hw⟩
  | _ => exact ⟨hs, h⟩

/-! ### Providers -/

theorem Source.behaviour_shows : Source.behaviour.Shows (Source.Alike L) :=
  ⟨Alike.name, Alike.shown⟩

theorem Source.behaviour_keeps :
    Source.behaviour.Keeps (Credentials.Alike L) (Source.Alike L) (World.Alike L u u') :=
  ⟨behaviour_shows, fun level channel text h => h.record level channel text, ask_alike⟩

namespace Provider

/-- Providers of the same shape with alike sources. -/
abbrev Alike (L : Likeness) (p p' : Provider) : Prop := Tree.Alike (Source.Alike L) p p'

variable {p p' : Provider} (hp : p.Alike L p')

include hp

theorem name_alike : p.name = p'.name := Tree.name_alike Source.behaviour_shows hp

theorem shown_alike : p.shown = p'.shown := Tree.shown_alike Source.behaviour_shows hp

theorem describe_alike : p.describe = p'.describe :=
  Tree.lines_alike Source.behaviour_shows hp 0

variable (h : World.Alike L u u' w w')

include h

theorem resolve_alike :
    Ends (Credentials.Alike L) (Provider.Alike L) (World.Alike L u u') (p.resolve w)
      (p'.resolve w') :=
  Tree.ask_alike Source.behaviour_keeps hp h

theorem close_alike :
    (p.close w).1.Alike L (p'.close w').1 ∧
      World.Alike L u u' (p.close w).2 (p'.close w').2 :=
  Tree.mapLeaves_alike Source.close_alike hp h

theorem tick_alike (place : Nat) :
    Alike L (Tree.actAt Source.tick place p w).1 (Tree.actAt Source.tick place p' w').1 ∧
      World.Alike L u u' (Tree.actAt Source.tick place p w).2
        (Tree.actAt Source.tick place p' w').2 :=
  Tree.actAt_alike Source.tick_alike place hp h

end Provider

end CloudCredentials
