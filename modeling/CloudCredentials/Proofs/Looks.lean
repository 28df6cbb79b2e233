import CloudCredentials.Proofs.ForeignFailures
import CloudCredentials.Proofs.Renewals

/-!
# A look, and then a use

Asking a source that loads once has two phases: it looks for something to hold, unless it holds
something already, and then it uses what it holds. What a look has found decides what the answer
can be; a look that fails or finds nothing leaves the source as empty as it was.
-/

namespace CloudCredentials

open World

/-! ### The first phase -/

namespace Backed

variable {σ η : Type} {b : Backing σ η} {name shown : String} {p : Backed σ η} {w : World}

/-- Look for something to hold, unless there is something already: whether there is, the source
after that, and the world. -/
def look (b : Backing σ η) (shown : String) (p : Backed σ η) (w : World) :
    Except Failure Bool × Backed σ η × World :=
  match p.held with
  | some _ => (.ok true, p, w)
  | none =>
    let (found, parameters, v) := b.load p.parameters (looking shown w)
    (found.map Option.isSome, ⟨parameters, found.toOption.join⟩, v)

/-- What a look finds, and what asking comes to then. -/
inductive Looked (b : Backing σ η) (name shown : String) (p : Backed σ η) (w : World) :
    Except Failure Bool × Backed σ η × World → Prop
  | failed {failure : Failure} {parameters : σ} {v : World}
    (ha : p.ask b name shown w = (.error (reportLoading name failure), ⟨parameters, none⟩, v)) :
    Looked b name shown p w (.error failure, ⟨parameters, none⟩, v)
  | absent {parameters : σ} {v : World}
    (ha : p.ask b name shown w = (.error (.notFound name .nothing), ⟨parameters, none⟩, v)) :
    Looked b name shown p w (.ok false, ⟨parameters, none⟩, v)
  | found {held : η} {parameters : σ} {v : World}
    (ha : ∀ shown', p.ask b name shown w = ask b name shown' ⟨parameters, some held⟩ v)
    (hl : parameters = p.parameters ∨
      parameters = (b.load p.parameters (looking shown w)).2.1) :
    Looked b name shown p w (.ok true, ⟨parameters, some held⟩, v)

theorem look_looked (b : Backing σ η) (name shown : String) (p : Backed σ η) (w : World) :
    Looked b name shown p w (p.look b shown w) := by
  obtain ⟨parameters, held⟩ := p
  cases held with
  | some held =>
    refine .found (fun shown' => ?_) (.inl rfl)
    simp only [ask, hold]
  | none =>
    rcases hl : b.load parameters (looking shown w) with ⟨found, parameters', v⟩
    have hlook : look b shown ⟨parameters, none⟩ w =
        (found.map Option.isSome, ⟨parameters', found.toOption.join⟩, v) := by
      simp only [look, hl]
    have hload := hl
    unfold looking at hload
    rw [hlook]
    rcases found with failure | _ | held
    · refine .failed ?_
      simp only [ask, hold, hload]
    · refine .absent ?_
      simp only [ask, hold, hload]
    · refine .found (fun shown' => ?_) (.inr (congrArg (·.2.1) hl).symm)
      simp only [ask, hold, hload]

theorem look_later (h : ∀ parameters (w : World), w.Later (b.load parameters w).2.2) :
    w.Later (p.look b shown w).2.2 := by
  unfold look
  cases p.held with
  | some held => exact .refl w
  | none => exact .trans (.record w ..) (h p.parameters (looking shown w))

theorem look_traced {own : Failure → Prop}
    (h : ∀ w, Traced own w (b.load p.parameters w).1 (b.load p.parameters w).2.2) :
    Traced own w (p.look b shown w).1 (p.look b shown w).2.2 := by
  unfold look
  cases p.held with
  | some held => exact .of_foreign (.refl w) (failsOnly_ok true)
  | none => exact ((h (looking shown w)).map Option.isSome).looking shown

end Backed

namespace Source

/-- The sources that look for what they hold. -/
def IsBacked : Source → Prop
  | .fixed _ | .scripted .. => False
  | _ => True

def isLoaded : Source → Bool
  | .instanceProfile state => state.held.isSome
  | .profile state => state.held.isSome
  | .webIdentity state _ => state.held.isSome
  | .standard state => state.held.isSome
  | .fixed _ | .scripted .. => true

/-- The keys that a source holds, whether they are renewed or not. -/
def keys? : Source → Option Keys
  | .fixed keys => some keys
  | .instanceProfile state => state.held.bind Lease.keys
  | .profile state => state.held
  | .webIdentity state _ => state.held.bind fun role => role.lease.keys
  | .standard state => state.held.bind fun
    | .fixed keys => some keys
    | .environment lease | .machine lease | .other _ lease => lease.keys
    | .role role _ => role.lease.keys
  | .scripted .. => none

def look : Source → World → Except Failure Bool × Source × World
  | .instanceProfile state, w =>
    let (found, state, w) := state.look InstanceProfile.backing InstanceProfile.shown w
    (found, .instanceProfile state, w)
  | .profile state, w =>
    let (found, state, w) := state.look NamedProfile.backing state.parameters.shown w
    (found, .profile state, w)
  | .webIdentity state refresher, w =>
    let (found, state, w) := state.look (WebIdentity.backing state.parameters.client)
      state.parameters.shown w
    (found, .webIdentity state refresher, w)
  | .standard state, w =>
    let (found, state, w) := state.look Standard.backing Standard.shown w
    (found, .standard state, w)
  | s, w => (.ok true, s, w)

/-- What asking a source comes to after its look. -/
inductive Looked (s : Source) (w : World) : Except Failure Bool × Source × World → Prop
  | failed {failure : Failure} {s' : Source} {v : World} (hs : s'.isLoaded = false)
    (ha : s.ask w = (.error (Backed.reportLoading s.name failure), s', v)) :
    Looked s w (.error failure, s', v)
  | absent {s' : Source} {v : World} (hs : s'.isLoaded = false)
    (ha : s.ask w = (.error (.notFound s.name .nothing), s', v)) : Looked s w (.ok false, s', v)
  | found {s' : Source} {v : World} (hs : s'.isLoaded = true) (hb : s.IsBacked → s'.IsBacked)
    (hn : s'.name = s.name) (ha : s.ask w = s'.ask v) : Looked s w (.ok true, s', v)

theorem look_looked (s : Source) (w : World) : s.Looked w (s.look w) := by
  cases s with
  | fixed keys => exact .found rfl id rfl rfl
  | scripted name answers => exact .found rfl id rfl rfl
  | instanceProfile state =>
    have hl := state.look_looked InstanceProfile.backing InstanceProfile.name
      InstanceProfile.shown w
    simp only [look]
    generalize state.look InstanceProfile.backing InstanceProfile.shown w = looked at hl
    cases hl with
    | failed ha => exact .failed rfl (by simp only [ask, ha]; rfl)
    | absent ha => exact .absent rfl (by simp only [ask, ha]; rfl)
    | found ha _ => exact .found rfl id rfl (by simp only [ask, ha InstanceProfile.shown])
  | profile state =>
    have hl := state.look_looked NamedProfile.backing NamedProfile.name state.parameters.shown w
    simp only [look]
    generalize state.look NamedProfile.backing state.parameters.shown w = looked at hl
    cases hl with
    | failed ha => exact .failed rfl (by simp only [ask, ha]; rfl)
    | absent ha => exact .absent rfl (by simp only [ask, ha]; rfl)
    | @found _ parameters _ ha _ =>
      exact .found rfl id rfl (by simp only [ask, ha parameters.shown])
  | webIdentity state refresher =>
    have hl := state.look_looked (WebIdentity.backing state.parameters.client) WebIdentity.name
      state.parameters.shown w
    simp only [look]
    generalize state.look (WebIdentity.backing state.parameters.client) state.parameters.shown w =
      looked at hl
    cases hl with
    | failed ha => exact .failed rfl (by simp only [ask, ha]; rfl)
    | absent ha => exact .absent rfl (by simp only [ask, ha]; rfl)
    | @found _ parameters _ ha hp =>
      -- loading leaves the parameters, and the client with them, as they are
      obtain rfl : parameters = state.parameters := hp.elim id id
      exact .found rfl id rfl (by simp only [ask, ha state.parameters.shown])
  | standard state =>
    have hl := state.look_looked Standard.backing Standard.name Standard.shown w
    simp only [look]
    generalize state.look Standard.backing Standard.shown w = looked at hl
    cases hl with
    | failed ha => exact .failed rfl (by simp only [ask, ha]; rfl)
    | absent ha => exact .absent rfl (by simp only [ask, ha]; rfl)
    | found ha _ => exact .found rfl id rfl (by simp only [ask, ha Standard.shown])

theorem look_later (s : Source) (w : World) : w.Later (s.look w).2.2 := by
  cases s with
  | instanceProfile state =>
    exact Backed.look_later (b := InstanceProfile.backing)
      fun _ w => ⟨_, InstanceProfile.load_grew w⟩
  | profile state => exact Backed.look_later (b := NamedProfile.backing) NamedProfile.load_later
  | webIdentity state refresher =>
    exact Backed.look_later (b := WebIdentity.backing state.parameters.client) fun _ w => .refl w
  | standard state => exact Backed.look_later (b := Standard.backing) Standard.load_later
  | fixed _ | scripted _ _ => exact .refl w

theorem look_of_isLoaded {s : Source} (h : s.isLoaded = true) (w : World) :
    s.look w = (.ok true, s, w) := by
  cases s with
  | instanceProfile state | profile state | webIdentity state _ | standard state =>
    obtain ⟨_, _ | held⟩ := state
    · cases h
    · rfl
  | fixed _ | scripted _ _ => rfl

end Source

end CloudCredentials
