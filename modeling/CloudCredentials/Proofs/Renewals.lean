import CloudCredentials.Proofs.BackedAsk
import CloudCredentials.Proofs.ForeignFailures
import CloudCredentials.Provider.Source

/-!
# Sources that hold a lease

A source that has found keys which expire holds a lease of them. From then on asking the source is
using the lease: it fetches when the lease is due, and only then. A fetch of the keys of a role acts
on the reply that is kept, too; all others act on the world alone.
-/

namespace CloudCredentials

/-! ### What a source renews -/

/-- Keys that are renewed: the lease of them, the fetch that renews it, the name of its kind in
reports, and the reply that is kept for the fetch, if any. -/
structure Renewal where
  method : String
  fetch : Keeping → Except Failure Delivery × Keeping
  lease : Lease
  stored : Option RoleReply := none

namespace Renewal

/-- A renewal that keeps no reply. -/
def plain (method : String) (fetch : World → Step Delivery) (lease : Lease) : Renewal where
  method := method
  fetch s := ((fetch s.2).1, s.1, (fetch s.2).2)
  lease := lease

/-- The renewal of the keys of a role. -/
def ofRole (role : AssumedRole) (client : World → Except Failure Client) : Renewal :=
  ⟨AssumedRole.method, role.fetch client, role.lease, role.stored⟩

/-- The fetch that renews the keys. -/
def fetched (r : Renewal) (w : World) : Except Failure Delivery × Keeping := r.fetch (r.stored, w)

def use (r : Renewal) (w : World) : Except Failure Keys × Lease × Keeping :=
  r.lease.use r.method Keeping.clock r.fetch (r.stored, w)

/-- A use that keeps no reply is one of the world alone. -/
theorem use_plain (method : String) (fetch : World → Step Delivery) (l : Lease) (w : World) :
    (plain method fetch l).use w = ((l.use method World.clock fetch w).1,
      (l.use method World.clock fetch w).2.1, none, (l.use method World.clock fetch w).2.2) :=
  have hclock (w : World) : Keeping.clock (none, w) = w.clock := rfl
  Lease.use_map (fun w : World => (none, w)) method hclock (fun _ => rfl) l w

/-- What is renewed, after a use. -/
def used (r : Renewal) (w : World) : Renewal :=
  { r with lease := (r.use w).2.1, stored := (r.use w).2.2.1 }

/-- What a source of some name answers after a use, with the lease that the use has left. -/
def answer (name : String) (lease : Lease) : Except Failure Keys → Except Failure Credentials
  | .error failure => .error (Backed.reportRenewing name failure)
  | .ok keys => Backed.credentials name keys lease.expiry

theorem answer_of_isComplete {name : String} {keys : Keys} (lease : Lease)
    (h : keys.isComplete = true) :
    answer name lease (.ok keys) = .ok ⟨keys, lease.expiry, some name⟩ := by
  rw [answer, Backed.credentials, if_pos h]

theorem answer_ok {name : String} {lease : Lease} {used : Except Failure Keys} {c : Credentials}
    (h : answer name lease used = .ok c) :
    ∃ keys, used = .ok keys ∧ c = ⟨keys, lease.expiry, some name⟩ := by
  cases used with
  | error failure => cases h
  | ok keys =>
    simp only [answer, Backed.credentials] at h
    split at h
    · cases h
      exact ⟨keys, rfl, rfl⟩
    · cases h

end Renewal

namespace StandardKeys

def renewal? : StandardKeys → Option Renewal
  | .fixed _ => none
  | .environment lease => some
    (.plain EnvironmentKeys.method (fun w => (EnvironmentKeys.delivery w.environment, w)) lease)
  | .role assumed view => some (.ofRole assumed (Standard.client view))
  | .machine lease => some (.plain InstanceProfile.method InstanceProfile.fetch lease)
  | .other method lease => some (.plain method (Standard.renew method) lease)

def renewed (r : Renewal) : StandardKeys → StandardKeys
  | .fixed keys => .fixed keys
  | .environment _ => .environment r.lease
  | .role assumed view => .role { assumed with lease := r.lease, stored := r.stored } view
  | .machine _ => .machine r.lease
  | .other method _ => .other method r.lease

variable {found : StandardKeys} {r : Renewal}

theorem renewed_self (h : found.renewal? = some r) : found.renewed r = found := by
  cases found with
  | fixed keys => cases h
  | environment _ | role _ _ | machine _ | other _ _ =>
    cases h
    rfl

theorem renewal?_renewed (h : found.renewal? = some r) (w : World) :
    (found.renewed (r.used w)).renewal? = some (r.used w) := by
  cases found with
  | fixed keys => cases h
  | environment _ | machine _ | other _ _ =>
    cases h
    simp only [Renewal.used, Renewal.use_plain]
    rfl
  | role _ _ =>
    cases h
    rfl

theorem use_renewal (h : found.renewal? = some r) (w : World) : Standard.use found w =
    ((r.use w).1, found.renewed (r.used w), (r.use w).2.2.2) ∧
      Standard.expiration (found.renewed (r.used w)) = (r.use w).2.1.expiry := by
  cases found with
  | fixed keys => cases h
  | environment _ | machine _ | other _ _ =>
    cases h
    simp only [Renewal.used, Renewal.use_plain]
    exact ⟨rfl, rfl⟩
  | role _ _ =>
    cases h
    exact ⟨rfl, rfl⟩

end StandardKeys

namespace Source

/-- The keys that a source holds and renews; none when it has found nothing yet, or keys that do not
expire. -/
def renewal? : Source → Option Renewal
  | .instanceProfile state =>
    state.held.map (.plain InstanceProfile.method InstanceProfile.fetch)
  | .webIdentity state _ => state.held.map (.ofRole · fun _ => .ok state.parameters.client)
  | .standard state => state.held.bind StandardKeys.renewal?
  | _ => none

/-- The source with what a use has left in place of what it holds. -/
def renewed (r : Renewal) : Source → Source
  | .instanceProfile state =>
    .instanceProfile { state with held := state.held.map fun _ => r.lease }
  | .webIdentity state refresher => .webIdentity { state with
      held := state.held.map fun role => { role with lease := r.lease, stored := r.stored } }
    refresher
  | .standard state =>
    .standard { state with held := state.held.map (StandardKeys.renewed r) }
  | s => s

variable {s : Source} {r : Renewal}

theorem renewed_self (h : s.renewal? = some r) : s.renewed r = s := by
  cases s with
  | instanceProfile state =>
    obtain ⟨parameters, _ | lease⟩ := state
    · cases h
    · cases h
      rfl
  | webIdentity state refresher =>
    obtain ⟨parameters, _ | role⟩ := state
    · cases h
    · cases h
      rfl
  | standard state =>
    obtain ⟨parameters, _ | found⟩ := state
    · cases h
    · simp only [renewed, Option.map_some, StandardKeys.renewed_self h]
  | fixed _ | profile _ | scripted _ _ => cases h

theorem renewal?_renewed (h : s.renewal? = some r) (w : World) :
    (s.renewed (r.used w)).renewal? = some (r.used w) := by
  cases s with
  | instanceProfile state =>
    obtain ⟨parameters, _ | held⟩ := state
    · cases h
    · cases h
      simp only [Renewal.used, Renewal.use_plain]
      rfl
  | webIdentity state refresher =>
    obtain ⟨parameters, _ | role⟩ := state
    · cases h
    · cases h
      rfl
  | standard state =>
    obtain ⟨parameters, _ | found⟩ := state
    · cases h
    · exact StandardKeys.renewal?_renewed h w
  | fixed _ | profile _ | scripted _ _ => cases h

/-- Asking a source that holds a lease is using it. -/
theorem ask_of_renewal (h : s.renewal? = some r) (w : World) :
    s.ask w = (Renewal.answer s.name (r.use w).2.1 (r.use w).1, s.renewed (r.used w),
      (r.use w).2.2.2) := by
  -- what is held has the lease in it, at the place that a use changes
  have backed {σ η : Type} {b : Backing σ η} {name shown : String} {p : Backed σ η}
      {held held' : η} (hh : p.held = some held)
      (he : b.expiration held' = (r.use w).2.1.expiry)
      (hu : b.use held w = ((r.use w).1, held', (r.use w).2.2.2)) :
      p.ask b name shown w = (Renewal.answer name (r.use w).2.1 (r.use w).1,
        { p with held := some held' }, (r.use w).2.2.2) := by
    rw [Backed.ask_of_hold (Backed.hold_of_held hh w) hu]
    cases hanswer : (r.use w).1 with
    | error failure => rfl
    | ok keys => simp only [Backed.answerOf, Renewal.answer, he]
  cases s with
  | instanceProfile state =>
    obtain ⟨parameters, _ | lease⟩ := state
    · cases h
    · cases h
      have huse := Renewal.use_plain InstanceProfile.method InstanceProfile.fetch lease w
      simp only [ask]
      rw [backed (b := InstanceProfile.backing) rfl rfl (by rw [huse]; rfl)]
      rfl
  | webIdentity state refresher =>
    obtain ⟨parameters, _ | role⟩ := state
    · cases h
    · cases h
      simp only [ask]
      rw [backed (b := WebIdentity.backing parameters.client) rfl rfl rfl]
      rfl
  | standard state =>
    obtain ⟨parameters, _ | found⟩ := state
    · cases h
    · obtain ⟨hu, he⟩ := StandardKeys.use_renewal h w
      simp only [ask]
      rw [backed (b := Standard.backing) rfl he hu]
      rfl
  | fixed _ | profile _ | scripted _ _ => cases h

/-- The role that a source has assumed. -/
def role? : Source → Option AssumedRole
  | .webIdentity state _ => state.held
  | .standard state => state.held.bind fun
    | .role assumed _ => some assumed
    | _ => none
  | _ => none

/-- What a source renews are the keys of a role, or keys whose fetch is no call, or one call with
what it delivers. -/
inductive Renewable (s : Source) : Renewal → Prop
  | plain {method : String} {fetch : World → Step Delivery} {lease : Lease} (hs : s.role? = none)
    (hf : ∀ w, (fetch w).2 = w ∧ FailsOnly Failure.isForeign (fetch w).1 ∨
      ∃ call, w.Grew [call] (fetch w).2 ∧ w.deliveries [call] = [(fetch w).1]) :
    Renewable s (.plain method fetch lease)
  | role {assumed : AssumedRole} {client : World → Except Failure Client}
    (hs : s.role? = some assumed) (hc : ∀ w, FailsOnly Failure.isForeign (client w)) :
    Renewable s (.ofRole assumed client)

theorem renewable_of_renewal (h : s.renewal? = some r) : s.Renewable r := by
  cases s with
  | instanceProfile state =>
    obtain ⟨_, _, rfl⟩ := Option.map_eq_some_iff.mp h
    exact .plain rfl fun w => .inr ⟨_, InstanceProfile.fetch_grew w⟩
  | webIdentity state refresher =>
    obtain ⟨role, hheld, rfl⟩ := Option.map_eq_some_iff.mp h
    exact .role hheld fun _ => failsOnly_ok _
  | standard state =>
    obtain ⟨_, held⟩ := state
    obtain ⟨found, rfl, h⟩ := Option.bind_eq_some_iff.mp h
    cases found with
    | fixed keys => cases h
    | environment lease =>
      cases h
      exact .plain rfl fun w => .inl ⟨rfl, EnvironmentKeys.delivery_isForeign _⟩
    | role assumed view =>
      cases h
      exact .role rfl (Standard.client_isForeign view)
    | machine lease =>
      cases h
      exact .plain rfl fun w => .inr ⟨_, InstanceProfile.fetch_grew w⟩
    | other method lease =>
      cases h
      exact .plain rfl fun w => .inr ⟨_, Standard.renew_grew method w⟩
  | fixed _ | profile _ | scripted _ _ => cases h

/-- Fetching makes calls only. -/
theorem fetched_later (h : s.renewal? = some r) (w : World) : w.Later (r.fetched w).2.2 := by
  cases renewable_of_renewal h with
  | plain _ hf =>
    rcases hf w with ⟨hw, _⟩ | ⟨call, hg, _⟩
    · exact ⟨[], hw.symm ▸ .refl w⟩
    · exact ⟨_, hg⟩
  | @role assumed client _ _ =>
    obtain ⟨own, hg, _⟩ := assumed.fetch_grew client (assumed.stored, w)
    exact ⟨own, hg⟩

end Source

end CloudCredentials
