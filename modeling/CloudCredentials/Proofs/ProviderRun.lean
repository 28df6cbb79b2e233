import CloudCredentials.Background
import CloudCredentials.Proofs.BackedAsk
import CloudCredentials.Proofs.KeptReplies
import CloudCredentials.Proofs.TreeAct

/-!
# Runs of providers

A run is a list of events: callers ask the provider or close it, background tasks ask single
sources, time passes, and the surroundings change. What is true of each source of a provider and
kept by each event is true after every run.
-/

namespace CloudCredentials

open World

/-! ### Asking any source makes calls only -/

theorem InstanceProfile.use_later (l : Lease) (w : World) : w.Later (use l w).2.2 :=
  Lease.use_respects Later.refl _ _ (fun w => ⟨_, (fetch_grew w).1⟩) l w

theorem AssumedRole.use_later (r : AssumedRole) (client : World → Except Failure Client)
    (w : World) : w.Later (r.use client w).2.2 := by
  have hfetch (s : Keeping) : s.2.Later (r.fetch client s).2.2 := by
    obtain ⟨own, hg, _⟩ := r.fetch_grew client s
    exact ⟨own, hg⟩
  exact Lease.use_respects (R := fun s s' : Keeping => s.2.Later s'.2) (fun _ => .refl _) method
    Keeping.clock hfetch r.lease (r.stored, w)

theorem NamedProfile.load_logged (p : NamedProfile) (w : World) : w.Logged (p.load w).2 := by
  unfold load
  cases p.path with
  | some path =>
    dsimp only [loadFrom]
    split
    · split
      · exact .refl w
      · exact .refl w
      · exact (Logged.refl w).record ..
    · exact .refl w
  | none =>
    dsimp only [loadDefault]
    split
    · split
      · exact .refl w
      · exact (Logged.refl w).record ..
      · split
        · exact .refl w
        · exact .refl w
        · exact (Logged.refl w).record ..
    · exact .refl w

theorem NamedProfile.load_later (p : NamedProfile) (w : World) : w.Later (p.load w).2 :=
  (p.load_logged w).later

theorem Standard.lookInPlaces_later (a : ActiveProfile) (w : World) :
    w.Later (lookInPlaces a w).2.2 := by
  unfold lookInPlaces
  split
  · exact .refl w
  · split
    · exact .refl w
    · exact .refl w
    · exact ⟨_, InstanceProfile.load_grew w⟩

theorem Standard.load_later (a : ActiveProfile) (w : World) : w.Later (load a w).2.2 := by
  have hlook : w.Later (w.answered .look) := ⟨_, .answered w .look⟩
  rcases load_cases a w with ⟨_, hl⟩ | ⟨look, _, hl⟩
  · rw [hl]
    exact hlook.trans (lookInPlaces_later (view a) _)
  · rw [hl]
    exact hlook

theorem Standard.use_later (found : StandardKeys) (w : World) : w.Later (use found w).2.2 := by
  cases found with
  | fixed keys => exact .refl w
  | environment lease => exact Lease.use_respects Later.refl _ _ (fun w => .refl w) lease w
  | role role view => exact role.use_later (client view) w
  | machine lease => exact InstanceProfile.use_later lease w
  | other method lease =>
    exact Lease.use_respects Later.refl _ _ (fun w => ⟨_, (renew_grew method w).1⟩) lease w

theorem Source.ask_later (s : Source) (w : World) : w.Later (s.ask w).2.2 := by
  cases s with
  | fixed keys => exact .refl w
  | instanceProfile state =>
    exact Backed.ask_respects Later.trans (fun w => .record w ..)
      (fun _ w => ⟨_, InstanceProfile.load_grew w⟩) InstanceProfile.use_later
  | profile state =>
    exact Backed.ask_respects Later.trans (fun w => .record w ..) NamedProfile.load_later
      fun _ w => .refl w
  | webIdentity state refresher =>
    exact Backed.ask_respects Later.trans (fun w => .record w ..) (fun _ w => .refl w)
      fun r w => r.use_later _ w
  | standard state =>
    exact Backed.ask_respects Later.trans (fun w => .record w ..) Standard.load_later
      Standard.use_later
  | scripted name answers => exact ⟨[.resolve name], w.log, rfl⟩

theorem Source.respects_later : Source.behaviour.Respects World.Later :=
  ⟨Later.refl, Later.trans, Later.record, Source.ask_later⟩

theorem Provider.resolve_later (p : Provider) (w : World) : w.Later (p.resolve w).2.2 :=
  Tree.ask_respects Source.respects_later p w

/-! ### Events -/

/-- What happens to a provider and to the world around it. -/
inductive Event
  | resolve
  | tick (place : Nat)
  | close
  | advance (micros : Nat)
  | environment (e : Environment)
  | files (f : Files)
  | scripts (metadata : Script (Outcome MetadataAnswer)) (roles : Script (Outcome RoleAnswer))
  | sdk (looks : Script (Option Look)) (renewals : Script (Except Failure Delivery))
    (clients : ClientRules)
  | support (webIdentity : Bool)

namespace Event

def around : Event → World → World
  | .advance micros, w => w.advance micros
  | .environment e, w => { w with environment := e }
  | .files f, w => { w with files := f }
  | .scripts metadata roles, w => { w with metadata, roles }
  | .sdk looks renewals clients, w => { w with looks, renewals, clients }
  | .support webIdentity, w => { w with webIdentity }
  | _, w => w

end Event

/-- A round of the background task of a source; only web identity federation has one. -/
def Source.tick (s : Source) (w : World) : Source × World :=
  match s with
  | .webIdentity .. => (Background.tick Source.ask s w).2
  | s => (s, w)

namespace Provider

/-- One event. Asking may fail; what counts here is what it leaves. -/
def step (e : Event) (s : Provider × World) : Provider × World :=
  match e with
  | .resolve => (resolve s.1 s.2).2
  | .tick place => Tree.actAt Source.tick place s.1 s.2
  | .close => close s.1 s.2
  | e => (s.1, e.around s.2)

def run (events : List Event) (s : Provider × World) : Provider × World :=
  events.foldl (fun s e => step e s) s

/-- What the resolves of a run answer, in order. -/
def answers : List Event → Provider × World → List (Except Failure Credentials)
  | [], _ => []
  | .resolve :: rest, s => (resolve s.1 s.2).1 :: answers rest (step .resolve s)
  | e :: rest, s => answers rest (step e s)

theorem run_cons (e : Event) (events : List Event) (s : Provider × World) :
    run (e :: events) s = run events (step e s) := rfl

end Provider

/-- A round leaves a source as it was, or as asking it has left it but for a record. -/
theorem Source.tick_source (s : Source) (w : World) :
    (s.tick w).1 = s ∧ (s.tick w).2 = w ∨
      (s.tick w).1 = (s.ask w).2.1 ∧ (s.ask w).2.2.Logged (s.tick w).2 := by
  cases s with
  | webIdentity state refresher =>
    right
    simp only [tick, Background.tick]
    rcases Source.ask (.webIdentity state refresher) w with ⟨answer, s', w'⟩
    cases answer with
    | ok c => exact ⟨rfl, .refl w'⟩
    | error failure =>
      by_cases hf : failure.isCredentials = true
      · simp only [hf, if_true]
        exact ⟨trivial, (Logged.refl w').record ..⟩
      · simp only [hf]
        exact ⟨rfl, .refl w'⟩
  | _ => exact .inl ⟨rfl, rfl⟩

theorem Source.tick_later (s : Source) (w : World) : w.Later (s.tick w).2 := by
  rcases s.tick_source w with ⟨_, he⟩ | ⟨_, hl⟩
  · rw [he]
    exact .refl w
  · exact (s.ask_later w).trans hl.later

theorem Source.close_later (s : Source) (w : World) : w.Later (s.close w).2 := by
  cases s with
  | scripted name answers => exact ⟨[.close name], w.log, rfl⟩
  | _ => exact .refl w

/-! ### What runs keep -/

/-- A property of a source in its world that every event of some kind keeps. -/
structure Source.Invariant (I : Source → World → Prop) (allowed : Event → Prop) : Prop where
  later : ∀ {s w v}, I s w → w.Later v → I s v
  ask : ∀ {s w}, I s w → I (s.ask w).2.1 (s.ask w).2.2
  close : ∀ {s w}, I s w → I (s.close w).1 (s.close w).2
  around : ∀ {e s w}, allowed e → I s w → I s (e.around w)

def Provider.Each (I : Source → World → Prop) (s : Provider × World) : Prop :=
  ∀ source ∈ Tree.leaves s.1, I source s.2

namespace Source.Invariant

variable {I : Source → World → Prop} {allowed : Event → Prop}

theorem of_kept (h : Invariant I allowed) {f : Source → World → Source × World}
    (hf : ∀ {s w}, I s w → I (f s w).1 (f s w).2) {p p' : Provider} {w w' : World}
    (hs : Provider.Each I (p, w)) (hw : w.Later w')
    (hk : ∀ s ∈ Tree.leaves p', Tree.Kept f World.Later (Tree.leaves p) w w' s) :
    Provider.Each I (p', w') := by
  intro s hmem
  rcases hk s hmem with hk | ⟨s₀, h₀, v, hv, rfl, hw'⟩
  · exact h.later (hs s hk) hw
  · exact h.later (hf (h.later (hs s₀ h₀) hv)) hw'

theorem tick (h : Invariant I allowed) {s : Source} {w : World} (hs : I s w) :
    I (s.tick w).1 (s.tick w).2 := by
  rcases s.tick_source w with ⟨he, hw⟩ | ⟨he, hw⟩
  · rw [he, hw]
    exact hs
  · rw [he]
    exact h.later (h.ask hs) hw.later

theorem step (h : Invariant I allowed) {e : Event} (he : allowed e) {s : Provider × World}
    (hs : Provider.Each I s) : Provider.Each I (Provider.step e s) := by
  obtain ⟨p, w⟩ := s
  cases e with
  | resolve =>
    exact h.of_kept h.ask hs (p.resolve_later w) (Tree.leaves_ask Source.respects_later p w)
  | tick place =>
    obtain ⟨hw, hk⟩ := Tree.actAt_kept Later.refl p place w
    exact h.of_kept h.tick hs (hw Source.tick_later) hk
  | close =>
    obtain ⟨hw, hk⟩ := Tree.mapLeaves_kept Later.refl Later.trans Source.close_later p w
    exact h.of_kept h.close hs hw hk
  | _ => exact fun s hmem => h.around he (hs s hmem)

theorem run (h : Invariant I allowed) {events : List Event} (he : ∀ e ∈ events, allowed e)
    {s : Provider × World} (hs : Provider.Each I s) : Provider.Each I (Provider.run events s) := by
  induction events generalizing s with
  | nil => exact hs
  | cons e rest ih =>
    rw [Provider.run_cons]
    exact ih (fun x hx => he x (List.mem_cons_of_mem _ hx)) (h.step (he e List.mem_cons_self) hs)

end Source.Invariant

end CloudCredentials
