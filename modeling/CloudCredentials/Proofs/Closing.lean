import CloudCredentials.Proofs.ProviderRun
import CloudCredentials.Proofs.TreeAlike

/-!
# Closing providers

Closing a provider stops the background task of every source in it, and changes nothing else: not
what a source holds, and nothing in the world. So a program that uses a provider cannot tell whether
and how often the provider was closed.
-/

namespace CloudCredentials

/-! ### Closed sources -/

namespace Source

/-- A source of this library, not one that follows a script. -/
def IsOwn : Source → Prop
  | .scripted .. => False
  | _ => True

/-- The source has no background task, and one that would be started is told to stop. -/
def IsClosed : Source → Prop
  | .webIdentity _ refresher => refresher.stopping = true ∧ refresher.running = false
  | _ => True

/-- The source as closing leaves it. -/
def closed : Source → Source
  | .webIdentity state refresher => .webIdentity state refresher.stop
  | s => s

theorem close_eq {s : Source} (h : s.IsOwn) (w : World) : s.close w = (s.closed, w) := by
  cases s with
  | scripted _ _ => exact h.elim
  | _ => rfl

theorem isClosed_close (s : Source) (w : World) : (s.close w).1.IsClosed := by
  cases s with
  | webIdentity state refresher => exact ⟨rfl, rfl⟩
  | _ => trivial

theorem closed_of_isClosed {s : Source} (h : s.IsClosed) : s.closed = s := by
  cases s with
  | webIdentity state refresher =>
    obtain ⟨interval, running, stopping⟩ := refresher
    obtain ⟨hs, hr⟩ : stopping = true ∧ running = false := h
    simp only [closed, Refresher.stop, hs, hr]
  | _ => rfl

theorem closed_closed (s : Source) : s.closed.closed = s.closed := by
  cases s <;> rfl

theorem ask_isClosed {s : Source} (h : s.IsClosed) (w : World) : (s.ask w).2.1.IsClosed := by
  cases s with
  | webIdentity state refresher => exact h
  | _ => trivial

theorem ask_closed (s : Source) (w : World) :
    s.closed.ask w = ((s.ask w).1, (s.ask w).2.1.closed, (s.ask w).2.2) := by
  cases s <;> rfl

/-- Sources of this library that are the same once they are closed. -/
structure SameClosed (s s' : Source) : Prop where
  closed : s.closed = s'.closed
  own : s.IsOwn
  own' : s'.IsOwn

theorem SameClosed.name {s s' : Source} (h : s.SameClosed s') : s.name = s'.name := by
  have hname (s : Source) : s.closed.name = s.name := by cases s <;> rfl
  rw [← hname s, h.closed, hname]

theorem SameClosed.shown {s s' : Source} (h : s.SameClosed s') : s.shown = s'.shown := by
  have hshown (s : Source) : s.closed.shown = s.shown := by cases s <;> rfl
  rw [← hshown s, h.closed, hshown]

theorem ask_isOwn {s : Source} (h : s.IsOwn) (w : World) : (s.ask w).2.1.IsOwn := by
  cases s with
  | scripted _ _ => exact h.elim
  | _ => trivial

theorem closed_isOwn {s : Source} (h : s.IsOwn) : s.closed.IsOwn := by
  cases s with
  | scripted _ _ => exact h.elim
  | _ => trivial

theorem ask_sameClosed {s s' : Source} {w w' : World} (h : s.SameClosed s') (hw : w = w') :
    Ends Eq SameClosed Eq (s.ask w) (s'.ask w') := by
  subst hw
  have ha := ask_closed s w
  rw [h.closed, ask_closed s' w] at ha
  obtain ⟨hanswer, hrest⟩ := Prod.mk.inj ha
  obtain ⟨hs, hw⟩ := Prod.mk.inj hrest
  refine ⟨?_, ⟨hs.symm, ask_isOwn h.own w, ask_isOwn h.own' w⟩, hw.symm⟩
  rw [hanswer]
  exact .refl (fun _ => rfl) _

theorem SameClosed.of_closed {s s' : Source} (h : s.SameClosed s') : s.closed.SameClosed s' :=
  ⟨(closed_closed s).trans h.closed, closed_isOwn h.own, h.own'⟩

theorem behaviour_sameClosed : behaviour.Keeps Eq SameClosed Eq where
  name := SameClosed.name
  shown := SameClosed.shown
  record level channel text h := by rw [h]
  ask := ask_sameClosed

end Source

/-! ### Closed providers -/

namespace Tree

variable {μ : Type} {f : μ → World → μ × World}

theorem forall_leaves_mapLeaves {P : μ → Prop} (hf : ∀ s w, P (f s w).1) (t : Tree μ) :
    ∀ w, ∀ s ∈ leaves (mapLeaves f t w).1, P s := by
  induction t using inductionOn with
  | leaf source =>
    intro w s hs
    rw [List.mem_singleton.mp hs]
    exact hf source w
  | chain members ih =>
    suffices hall : ∀ w, ∀ s ∈ leavesAll (mapAll f members w).1, P s from hall
    induction members with
    | nil =>
      intro w s hs
      cases hs
    | cons m rest ihr =>
      intro w s hs
      rcases List.mem_append.mp hs with hs | hs
      · exact ih m List.mem_cons_self w s hs
      · exact ihr (fun m hm => ih m (List.mem_cons_of_mem _ hm)) (mapLeaves f m w).2 s hs

/-- An action that leaves each source and the world as they are leaves a tree as it is. -/
theorem mapLeaves_eq_self (t : Tree μ) (hf : ∀ s ∈ leaves t, ∀ w, f s w = (s, w)) (w : World) :
    mapLeaves f t w = (t, w) := by
  induction t using inductionOn with
  | leaf source => simp only [mapLeaves, hf source List.mem_cons_self w]
  | chain members ih =>
    have hall : mapAll f members w = (members, w) := by
      induction members with
      | nil => rfl
      | cons m rest ihr =>
        have hm := ih m List.mem_cons_self fun s hs => hf s (List.mem_append_left _ hs)
        have hrest := ihr (fun m hm hs => ih m (List.mem_cons_of_mem _ hm) hs)
          fun s hs => hf s (List.mem_append_right _ hs)
        simp only [mapAll, hm, hrest]
    simp only [mapLeaves, hall]

theorem mapLeaves_left {R : μ → μ → Prop} (hf : ∀ {s s'} w, R s s' → R (f s w).1 s' ∧ (f s w).2 = w)
    {t t' : Tree μ} (h : Alike R t t') (w : World) :
    Alike R (mapLeaves f t w).1 t' ∧ (mapLeaves f t w).2 = w := by
  refine h.inductionOn (P := fun t t' => ∀ w,
    Alike R (mapLeaves f t w).1 t' ∧ (mapLeaves f t w).2 = w) ?_ ?_ w
  · intro s s' hs w
    obtain ⟨hs, hw⟩ := hf w hs
    exact ⟨.leaf hs, hw⟩
  · intro members members' hm w
    have hall : List.Forall₂ (Alike R) (mapAll f members w).1 members' ∧
        (mapAll f members w).2 = w := by
      induction hm with
      | nil => exact ⟨.nil, rfl⟩
      | @cons m m' rest rest' hm _ ih =>
        obtain ⟨ht, hw⟩ := hm.2 w
        simp only [mapAll, hw]
        exact ⟨.cons ht ih.1, ih.2⟩
    exact ⟨.chain hall.1, hall.2⟩

end Tree

namespace Provider

def IsOwn (p : Provider) : Prop := ∀ s ∈ Tree.leaves p, s.IsOwn

/-- At any depth, no background task is left. -/
def IsClosed (p : Provider) : Prop := ∀ s ∈ Tree.leaves p, s.IsClosed

/-- The same provider once it is closed. -/
abbrev SameClosed (p p' : Provider) : Prop := Tree.Alike Source.SameClosed p p'

theorem IsOwn.sameClosed {p : Provider} (h : p.IsOwn) : p.SameClosed p :=
  .refl fun s hs => ⟨rfl, h s hs, h s hs⟩

theorem isClosed_close (p : Provider) (w : World) : (p.close w).1.IsClosed :=
  Tree.forall_leaves_mapLeaves Source.isClosed_close p w

theorem close_of_isClosed {p : Provider} (hp : p.IsOwn) (h : p.IsClosed) (w : World) :
    p.close w = (p, w) := by
  refine Tree.mapLeaves_eq_self p (fun s hs w => ?_) w
  rw [Source.close_eq (hp s hs), Source.closed_of_isClosed (h s hs)]

theorem close_sameClosed {p p' : Provider} (h : p.SameClosed p') (w : World) :
    (p.close w).1.SameClosed p' ∧ (p.close w).2 = w := by
  refine Tree.mapLeaves_left (fun w hs => ?_) h w
  rw [Source.close_eq hs.own]
  exact ⟨hs.of_closed, rfl⟩

theorem close_sameClosed_both {p p' : Provider} (h : p.SameClosed p') (w : World) :
    (p.close w).1.SameClosed (p'.close w).1 ∧ (p.close w).2 = (p'.close w).2 := by
  refine Tree.mapLeaves_alike (W := Eq) (fun hs hw => ?_) h rfl
  subst hw
  rw [Source.close_eq hs.own, Source.close_eq hs.own']
  refine ⟨⟨?_, Source.closed_isOwn hs.own, Source.closed_isOwn hs.own'⟩, rfl⟩
  rw [Source.closed_closed, Source.closed_closed, hs.closed]

theorem resolve_sameClosed {p p' : Provider} (h : p.SameClosed p') (w : World) :
    (p.resolve w).1 = (p'.resolve w).1 ∧ (p.resolve w).2.1.SameClosed (p'.resolve w).2.1 ∧
      (p.resolve w).2.2 = (p'.resolve w).2.2 := by
  obtain ⟨ha, hp, hw⟩ := Tree.ask_alike Source.behaviour_sameClosed h (rfl : w = w)
  exact ⟨ha.eq, hp, hw⟩

theorem resolve_isClosed {p : Provider} (h : p.IsClosed) (w : World) :
    (p.resolve w).2.1.IsClosed := by
  intro s hs
  rcases Tree.leaves_ask Source.respects_later p w s hs with hs | ⟨s₀, h₀, v, _, rfl, _⟩
  · exact h s hs
  · exact Source.ask_isClosed (h s₀ h₀) v

theorem resolve_isOwn {p : Provider} (h : p.IsOwn) (w : World) : (p.resolve w).2.1.IsOwn := by
  intro s hs
  rcases Tree.leaves_ask Source.respects_later p w s hs with hs | ⟨s₀, h₀, v, _, rfl, _⟩
  · exact h s hs
  · exact Source.ask_isOwn (h s₀ h₀) v

theorem close_isOwn {p : Provider} (h : p.IsOwn) (w : World) : (p.close w).1.IsOwn := by
  obtain ⟨_, hkept⟩ := Tree.mapLeaves_kept World.Later.refl World.Later.trans
    Source.close_later p w
  intro s hs
  rcases hkept s hs with hs | ⟨s₀, h₀, v, _, rfl, _⟩
  · exact h s hs
  · rw [Source.close_eq (h s₀ h₀)]
    exact Source.closed_isOwn (h s₀ h₀)

end Provider

/-! ### Programs that use a provider -/

/-- What a program does with a provider. In a block the provider is used as a context: it is closed
in the end. Whatever is raised in a guarded part is caught there. -/
inductive Act
  | resolve
  | close
  | wait (micros : Nat)
  | raise (failure : Failure)
  | block (body : List Act)
  | guarded (body : List Act)

namespace Act

/-- What an act comes to: what it raises, if anything, and how the resolves in it have ended. -/
structure Outcome where
  raised : Option Failure := none
  answers : List (Except Failure Credentials) := []

def resolved : Except Failure Credentials → Outcome
  | .ok c => ⟨none, [.ok c]⟩
  | .error failure => ⟨some failure, [.error failure]⟩

def Outcome.caught (o : Outcome) : Outcome := { o with raised := none }

def Outcome.before (answers : List (Except Failure Credentials)) (o : Outcome) : Outcome :=
  { o with answers := answers ++ o.answers }

mutual

def run : Act → Provider → World → Outcome × Provider × World
  | .resolve, p, w =>
    let (answer, p, w) := p.resolve w
    (resolved answer, p, w)
  | .close, p, w =>
    let (p, w) := p.close w
    ({}, p, w)
  | .wait micros, p, w => ({}, p, w.advance micros)
  | .raise failure, p, w => ({ raised := some failure }, p, w)
  | .block body, p, w => p.within (runAll body) w
  | .guarded body, p, w =>
    let (outcome, p, w) := runAll body p w
    (outcome.caught, p, w)

/-- Acts one after the other, up to the first one that raises something. -/
def runAll : List Act → Provider → World → Outcome × Provider × World
  | [], p, w => ({}, p, w)
  | act :: rest, p, w =>
    let (outcome, p, w) := run act p w
    if outcome.raised.isSome then (outcome, p, w)
    else
      let (later, p, w) := runAll rest p w
      (later.before outcome.answers, p, w)

end

mutual

/-- The act without the closes in it; that of a block is none of them. -/
def withoutCloses : Act → Act
  | .block body => .block (withoutClosesAll body)
  | .guarded body => .guarded (withoutClosesAll body)
  | act => act

def withoutClosesAll : List Act → List Act
  | [] => []
  | .close :: rest => withoutClosesAll rest
  | act :: rest => withoutCloses act :: withoutClosesAll rest

end

theorem inductionOn {P : Act → Prop} (resolve : P .resolve) (close : P .close)
    (wait : ∀ micros, P (.wait micros)) (raise : ∀ failure, P (.raise failure))
    (block : ∀ body, (∀ act ∈ body, P act) → P (.block body))
    (guarded : ∀ body, (∀ act ∈ body, P act) → P (.guarded body)) (act : Act) : P act :=
  match act with
  | .resolve => resolve
  | .close => close
  | .wait micros => wait micros
  | .raise failure => raise failure
  | .block body => block body fun act _ =>
    inductionOn resolve close wait raise block guarded act
  | .guarded body => guarded body fun act _ =>
    inductionOn resolve close wait raise block guarded act

/-! ### What programs keep -/

section Kept

variable {I : Provider → Prop} (hresolve : ∀ p w, I p → I (p.resolve w).2.1)
  (hclose : ∀ p w, I p → I (p.close w).1)

theorem runAll_kept {acts : List Act}
    (hacts : ∀ act ∈ acts, ∀ p w, I p → I (act.run p w).2.1) (p : Provider) (w : World)
    (hp : I p) : I (runAll acts p w).2.1 := by
  induction acts generalizing p w with
  | nil => exact hp
  | cons act rest ih =>
    have hact := hacts act List.mem_cons_self p w hp
    simp only [runAll]
    split
    · exact hact
    · exact ih (fun a ha => hacts a (List.mem_cons_of_mem _ ha)) _ _ hact

include hresolve hclose

/-- What resolving and closing keep, an act keeps. -/
theorem run_kept (act : Act) : ∀ p w, I p → I (act.run p w).2.1 := by
  induction act using inductionOn with
  | resolve => exact hresolve
  | close => exact hclose
  | wait micros => exact fun p w hp => hp
  | raise failure => exact fun p w hp => hp
  | block body ih => exact fun p w hp => hclose _ _ (runAll_kept ih p w hp)
  | guarded body ih => exact fun p w hp => runAll_kept ih p w hp

end Kept

/-! ### Closes make no difference -/

/-- Two runs come to the same, with providers that are the same once they are closed. -/
structure Same (r r' : Outcome × Provider × World) : Prop where
  outcome : r.1 = r'.1
  provider : r.2.1.SameClosed r'.2.1
  world : r.2.2 = r'.2.2

theorem withoutClosesAll_cons {act : Act} (h : act ≠ .close) (rest : List Act) :
    withoutClosesAll (act :: rest) = act.withoutCloses :: withoutClosesAll rest := by
  cases act with
  | close => exact (h rfl).elim
  | _ => simp only [withoutClosesAll]

/-- The act comes to the same without the closes in it. -/
def IgnoresCloses (act : Act) : Prop :=
  ∀ p p' w, p.SameClosed p' → Same (act.run p w) (act.withoutCloses.run p' w)

theorem runAll_ignoresCloses {acts : List Act} (hacts : ∀ act ∈ acts, act.IgnoresCloses)
    (p p' : Provider) (w : World) (h : p.SameClosed p') :
    Same (runAll acts p w) (runAll (withoutClosesAll acts) p' w) := by
  induction acts generalizing p p' w with
  | nil => exact ⟨rfl, h, rfl⟩
  | cons act rest ih =>
    have hrest := ih fun a ha => hacts a (List.mem_cons_of_mem _ ha)
    by_cases hc : act = .close
    · -- the close raises nothing, and the rest starts from a provider that is the same
      subst hc
      obtain ⟨hp, hw⟩ := Provider.close_sameClosed h w
      have hlater := hrest (p.close w).1 p' w hp
      have hrun : runAll (.close :: rest) p w = runAll rest (p.close w).1 w := by
        simp only [runAll, run, hw]
        rfl
      rw [hrun, withoutClosesAll]
      exact hlater
    · have hact := hacts act List.mem_cons_self p p' w h
      rw [withoutClosesAll_cons hc]
      simp only [runAll]
      rw [hact.outcome, hact.world]
      split
      · exact ⟨rfl, hact.provider, rfl⟩
      · have hlater := hrest _ _ (act.withoutCloses.run p' w).2.2 hact.provider
        exact ⟨by rw [hlater.outcome], hlater.provider, hlater.world⟩

theorem ignoresCloses (act : Act) : act.IgnoresCloses := by
  induction act using inductionOn with
  | resolve =>
    intro p p' w h
    obtain ⟨ha, hp, hw⟩ := Provider.resolve_sameClosed h w
    exact ⟨congrArg resolved ha, hp, hw⟩
  | close =>
    intro p p' w h
    obtain ⟨hp, hw⟩ := Provider.close_sameClosed_both h w
    exact ⟨rfl, hp, hw⟩
  | wait micros => exact fun p p' w h => ⟨rfl, h, rfl⟩
  | raise failure => exact fun p p' w h => ⟨rfl, h, rfl⟩
  | block body ih =>
    intro p p' w h
    have hbody := runAll_ignoresCloses ih p p' w h
    obtain ⟨hp, hw⟩ := Provider.close_sameClosed_both hbody.provider (runAll body p w).2.2
    refine ⟨hbody.outcome, ?_, ?_⟩
    · simp only [withoutCloses, run, Provider.within, ← hbody.world]
      exact hp
    · simp only [withoutCloses, run, Provider.within, ← hbody.world]
      exact hw
  | guarded body ih =>
    intro p p' w h
    have hbody := runAll_ignoresCloses ih p p' w h
    exact ⟨congrArg Outcome.caught hbody.outcome, hbody.provider, hbody.world⟩

theorem runAll_withoutCloses {p : Provider} (hp : p.IsOwn) (acts : List Act) (w : World) :
    Same (runAll acts p w) (runAll (withoutClosesAll acts) p w) :=
  runAll_ignoresCloses (fun act _ => act.ignoresCloses) p p w hp.sameClosed

/-- Closing is complete, final and harmless. Wherever a program has brought a provider of this
library, a close leaves no background task at any depth, and so does the end of a block, which
comes to what its body comes to and raises what that raises. Once there is none there never is one
again, and further closes change nothing. Programs that are the same without their closes have the
same outcomes, and they leave the same world, with the same calls. -/
theorem runAll_closing {p : Provider} (hp : p.IsOwn) (acts : List Act) (w : World) :
    let s := (runAll acts p w).2
    ((s.1.close s.2).1.IsClosed ∧ (s.1.close s.2).2 = s.2) ∧
      (∀ body, (run (.block body) s.1 s.2).2.1.IsClosed ∧
        (run (.block body) s.1 s.2).1 = (runAll body s.1 s.2).1) ∧
      (p.IsClosed → s.1.IsClosed) ∧ (s.1.IsClosed → s.1.close s.2 = s) ∧
      ∀ acts', withoutClosesAll acts' = withoutClosesAll acts →
        (runAll acts' p w).1 = (runAll acts p w).1 ∧ (runAll acts' p w).2.2 = s.2 := by
  intro s
  have hown : s.1.IsOwn := runAll_kept (I := Provider.IsOwn) (fun act _ => act.run_kept
    (fun p w hp => Provider.resolve_isOwn hp w) fun p w hp => Provider.close_isOwn hp w) p w hp
  refine ⟨⟨Provider.isClosed_close s.1 s.2, (Provider.close_sameClosed hown.sameClosed s.2).2⟩,
    fun body => ⟨Provider.isClosed_close _ _, rfl⟩, fun hc => ?_, fun hc =>
    Provider.close_of_isClosed hown hc s.2, fun acts' hacts => ?_⟩
  · exact runAll_kept (I := Provider.IsClosed) (fun act _ => act.run_kept
      (fun p w hp => Provider.resolve_isClosed hp w) fun p w _ => p.isClosed_close w) p w hc
  · have h := runAll_withoutCloses hp acts w
    have h' := runAll_withoutCloses hp acts' w
    rw [hacts] at h'
    exact ⟨h'.outcome.trans h.outcome.symm, h'.world.trans h.world.symm⟩

def tokenSource : Source :=
  .ofWebIdentity
    { client := ⟨"eu-west-1", .unsigned⟩, role := some "role/app", asyncUpdate := true }
    (60 * Time.second)

def nestedTokens : Provider :=
  .chain [.chain [.leaf tokenSource], .leaf (.fixed ⟨.text "AKIA", .text "s", .absent⟩)]

def leftBlock : Act := .block [.resolve, .close, .raise .noPart]

set_option maxRecDepth 20000 in
/-- The background task is there before the block and not after it; the exception leaves the block,
and two programs with the block, with and without its close, come to the same. -/
theorem runAll_closing_nestedTokens :
    ¬ nestedTokens.IsClosed ∧ (leftBlock.run nestedTokens {}).2.1.IsClosed ∧
      (leftBlock.run nestedTokens {}).1.raised = some .noPart ∧
      (runAll [.guarded [leftBlock], .wait 60, .close, .resolve] nestedTokens {}).1 =
        (runAll [.guarded [.block [.resolve, .raise .noPart]], .wait 60, .resolve] nestedTokens
          {}).1 := by
  have hown : nestedTokens.IsOwn := by
    intro s hs
    obtain rfl | rfl : s = tokenSource ∨ s = .fixed ⟨.text "AKIA", .text "s", .absent⟩ := by
      simpa [nestedTokens, Tree.leaves, Tree.leavesAll] using hs
    · trivial
    · trivial
  have hopen : ¬ nestedTokens.IsClosed := by
    intro h
    have hrunning := h tokenSource (by simp [nestedTokens, Tree.leaves, Tree.leavesAll])
    exact absurd hrunning.2 (by decide)
  obtain ⟨_, hblock, _⟩ := runAll_closing hown [] {}
  obtain ⟨_, _, _, _, hcloses⟩ := runAll_closing hown
    [.guarded [.block [.resolve, .raise .noPart]], .wait 60, .resolve] {}
  exact ⟨hopen, (hblock [.resolve, .close, .raise .noPart]).1, rfl, (hcloses _ rfl).1⟩

end Act

end CloudCredentials
