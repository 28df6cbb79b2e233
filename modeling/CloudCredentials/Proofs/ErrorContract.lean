import CloudCredentials.Proofs.ProviderRun
import CloudCredentials.Proofs.StandardStrays

/-!
# What callers of a provider are promised

A provider is to hand out keys with content, or to fail with a failure of a provider. Chains keep
that promise, as do fixed keys; the other sources keep it exactly when no stray failure ends a look
or a use. The promise is broken, for instance, by keys that have expired when they are delivered.
-/

namespace CloudCredentials

/-- An answer that callers are promised: keys with content, or a failure of a provider. -/
def KeepsContract : Except Failure Credentials → Prop
  | .ok c => c.keys.isComplete = true
  | .error failure => failure.isCredentials = true

instance : DecidablePred KeepsContract
  | .ok c => inferInstanceAs (Decidable (c.keys.isComplete = true))
  | .error failure => inferInstanceAs (Decidable (failure.isCredentials = true))

/-! ### Sources that load once -/

namespace Backed

variable {σ η : Type} {b : Backing σ η} {name shown : String} {p : Backed σ η} {w : World}

/-- The condition under which asking ends in a stray failure: nothing is held, and the look for it
does so; or the use of what is held does so. -/
def Breaks (b : Backing σ η) (shown : String) (look : World → Prop) (use : η → World → Prop)
    (p : Backed σ η) (w : World) : Prop :=
  (p.held = none ∧ look (looking shown w)) ∨
    ∃ held parameters v, Holding b shown p w held parameters v ∧ use held v

theorem reported_isCredentials {f g : Failure} (hg : g.isCredentials = true) :
    (if f.isWrapped then g else f).isCredentials = true ↔ ¬ f.IsStray := by
  unfold Failure.IsStray
  cases hw : f.isWrapped with
  | true => simp [hg]
  | false => simp

theorem answerOf_keeps (held : η) (answer : Except Failure Keys) :
    KeepsContract (answerOf b name held answer) ↔ ¬ Strays answer := by
  cases answer with
  | error f =>
    rw [strays_error]
    exact reported_isCredentials rfl
  | ok keys =>
    refine iff_of_true ?_ (strays_ok keys)
    simp only [answerOf, credentials]
    split
    · assumption
    · rfl

/-- Asking keeps the promise exactly when neither a look nor a use breaks it. -/
theorem ask_keeps_iff {look : World → Prop} {use : η → World → Prop}
    (hl : ∀ w, Strays (b.load p.parameters w).1 ↔ look w)
    (hu : ∀ held w, Strays (b.use held w).1 ↔ use held w) :
    KeepsContract (p.ask b name shown w).1 ↔ ¬ Breaks b shown look use p w := by
  -- a look that comes to nothing leaves nothing to use
  have unheld (hh : p.held = none)
      (hn : ∀ held, (b.load p.parameters (looking shown w)).1 ≠ .ok (some held)) :
      Breaks b shown look use p w ↔ Strays (b.load p.parameters (looking shown w)).1 := by
    rw [hl]
    constructor
    · rintro (⟨_, h⟩ | ⟨held, _, _, hheld, _⟩)
      · exact h
      · cases hheld with
        | held h =>
          rw [hh] at h
          cases h
        | found _ h => exact absurd (by rw [h]) (hn held)
    · intro h
      exact .inl ⟨hh, h⟩
  have ha := ask_asked b name shown p w
  generalize p.ask b name shown w = r at ha
  cases ha with
  | failed hh hload =>
    rw [unheld hh (by rw [hload]; simp), hload, strays_error]
    exact reported_isCredentials rfl
  | absent hh hload =>
    rw [unheld hh (by rw [hload]; simp), hload]
    exact iff_of_true rfl (strays_ok _)
  | @used held held' parameters v w' answer hh huse =>
    have hstrays := hu held v
    rw [huse] at hstrays
    rw [answerOf_keeps]
    refine not_congr (hstrays.trans ?_)
    constructor
    · intro h
      exact .inr ⟨held, _, v, hh, h⟩
    · rintro (⟨hnone, h⟩ | ⟨_, _, _, hh', h⟩)
      · rw [← hl] at h
        cases hh with
        | held hs =>
          rw [hnone] at hs
          cases hs
        | found _ hload =>
          rw [hload] at h
          exact absurd h (strays_ok _)
      · obtain ⟨rfl, rfl⟩ := hh.unique hh'
        exact h

end Backed

/-! ### Sources -/

namespace Source

inductive Made : Source → Prop
  | keys {keys : Keys} {s : Source} (h : ofKeys keys = .ok s) : Made s
  | metadata : Made ofInstance
  | profile {home : Option String} {profile : String} {file : Option FileName} {s : Source}
    (h : ofProfile home profile file = .ok s) : Made s
  | webIdentity (parameters : WebIdentity) (interval : Int) :
    Made (ofWebIdentity parameters interval)
  | standard (profile : Option String) : Made (ofStandard profile)

/-- What stays true of a source that was made: it is not scripted, and fixed keys have content. -/
def IsGenuine : Source → World → Prop
  | .fixed keys, _ => keys.isComplete = true
  | .scripted .., _ => False
  | _, _ => True

theorem Made.isGenuine {s : Source} (h : s.Made) (w : World) : s.IsGenuine w := by
  cases h with
  | @keys keys _ h =>
    unfold ofKeys at h
    split at h
    · rename_i hk
      cases h
      exact hk
    · cases h
  | metadata => trivial
  | @profile home profile file _ h =>
    unfold ofProfile at h
    cases hm : NamedProfile.make home profile file with
    | error f =>
      rw [hm] at h
      cases h
    | ok p =>
      rw [hm] at h
      cases h
      trivial
  | webIdentity _ _ => trivial
  | standard _ => trivial

theorem isGenuine_invariant : Invariant IsGenuine fun _ => True where
  later {s} _ _ h _ := by cases s <;> exact h
  ask {s} w h := by cases s <;> exact h
  close {s} w h := by cases s <;> exact h
  around {_ s} _ _ h := by cases s <;> exact h

def Breaks : Source → World → Prop
  | .fixed _, _ => False
  | .instanceProfile state, w =>
    state.Breaks InstanceProfile.backing InstanceProfile.shown InstanceProfile.LookBreaks
      InstanceProfile.UseBreaks w
  | .profile state, w =>
    state.Breaks NamedProfile.backing state.parameters.shown
      (fun w => state.parameters.path = none ∧ (w.environment.defaultCredentialsFile = none ∨
        w.environment.defaultConfigFile = none))
      (fun _ _ => False) w
  | .webIdentity state _, w =>
    state.Breaks (WebIdentity.backing state.parameters.client) state.parameters.shown
      (fun w => w.webIdentity = false)
      (fun r w => r.UseBreaks (fun _ => .ok state.parameters.client) False w) w
  | .standard state, w =>
    state.Breaks Standard.backing Standard.shown (Standard.LookBreaks state.parameters)
      Standard.UseBreaks w
  | .scripted .., _ => False

theorem ask_keeps_iff {s : Source} {w : World} (h : s.IsGenuine w) :
    KeepsContract (s.ask w).1 ↔ ¬ s.Breaks w := by
  cases s with
  | fixed keys => exact iff_of_true h id
  | instanceProfile state =>
    exact Backed.ask_keeps_iff InstanceProfile.load_strays InstanceProfile.use_strays
  | profile state =>
    exact Backed.ask_keeps_iff (b := NamedProfile.backing) state.parameters.load_strays
      fun keys _ => iff_of_false (strays_ok keys) id
  | webIdentity state refresher =>
    have hl (w : World) : Strays ((state.parameters.load w).map some) ↔ w.webIdentity = false :=
      (strays_map some _).trans (state.parameters.load_strays w)
    have hu (r : AssumedRole) (w : World) :
        Strays (r.use (fun _ => .ok state.parameters.client) w).1 ↔
          r.UseBreaks (fun _ => .ok state.parameters.client) False w :=
      r.use_strays (iff_of_false (strays_ok _) id)
    exact Backed.ask_keeps_iff (b := WebIdentity.backing state.parameters.client) hl hu
  | standard state =>
    exact Backed.ask_keeps_iff (Standard.load_strays state.parameters) Standard.use_strays
  | scripted name answers => exact h.elim

theorem ask_isComplete {s s' : Source} {w w' : World} {c : Credentials} (hs : s.IsGenuine w)
    (h : s.ask w = (.ok c, s', w')) : c.keys.isComplete = true := by
  have backed {σ η : Type} {b : Backing σ η} {name shown : String} {p : Backed σ η}
      (h : (p.ask b name shown w).1 = .ok c) : c.keys.isComplete = true := by
    rcases ha : p.ask b name shown w with ⟨answer, p', v⟩
    rw [ha] at h
    cases h
    obtain ⟨_, _, _, _, keys, _, _, _, hk, rfl⟩ := Backed.ask_ok ha
    exact hk
  have hok : (s.ask w).1 = .ok c := by rw [h]
  cases s with
  | fixed keys =>
    cases h
    exact hs
  | scripted name answers => exact hs.elim
  | _ => exact backed hok

end Source

/-! ### Providers -/

namespace Provider

/-- A provider that can be made: a source, or a chain of such providers. -/
inductive Made : Provider → Prop
  | source {s : Source} (h : s.Made) : Made (.leaf s)
  | chain {members : List Provider} {p : Provider} (hm : ∀ m ∈ members, Made m)
    (h : Tree.ofMembers members = .ok p) : Made p

theorem Made.leaves {p : Provider} (h : p.Made) : ∀ s ∈ Tree.leaves p, s.Made := by
  induction h with
  | @source s h =>
    intro x hx
    rw [List.mem_singleton.mp hx]
    exact h
  | @chain members p hm h ih =>
    cases members with
    | nil => cases h
    | cons m rest =>
      cases h
      intro s hs
      obtain ⟨m', hm', hs'⟩ := Tree.mem_leaves_chain.mp hs
      exact ih m' hm' s hs'

/-- The condition under which a provider breaks the promise; a chain never does. -/
def Breaks : Provider → World → Prop
  | .leaf s, w => s.Breaks w
  | .chain _, _ => False

theorem chain_keeps {members : List Provider} {w : World}
    (h : Each Source.IsGenuine (.chain members, w)) :
    KeepsContract (resolve (.chain members) w).1 := by
  rcases hr : resolve (.chain members) w with ⟨answer, p', w'⟩
  cases answer with
  | ok c =>
    obtain ⟨s, hs, v, s', v', hv, ha, _⟩ := Tree.ask_ok Source.respects_later hr
    exact Source.ask_isComplete (Source.isGenuine_invariant.later (h s hs) hv) ha
  | error failure =>
    rcases ha : Tree.askFirst Source.behaviour members w with ⟨attempts, members', v⟩
    simp only [resolve, Tree.ask, ha] at hr
    cases attempts with
    | ok c => cases hr
    | error entries =>
      cases hr
      rfl

def ofTokenFile : Provider :=
  .leaf (.ofWebIdentity
    { client := ⟨"us-east-1", .unsigned⟩, role := some "role/app",
      tokenFile := some (.text "token"), session := some "app" } 60)

/-- The token file holds bytes that are not UTF-8. -/
def notUtf8 : World where
  files := [(["token"], .file [255, 65])]

/-- The service gives good keys once, and keys that have expired from then on. -/
def expiring : World where
  roles := [.ok {}, .ok ⟨some { expiry := some (.expiry (.after (-1))) }⟩]
  files := [(["token"], .file [65])]

end Provider

end CloudCredentials
