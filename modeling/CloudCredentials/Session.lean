import CloudCredentials.ClientPlan
import CloudCredentials.Provider.Source
import CloudCredentials.Region

/-!
# Sessions

A session makes requests with the keys of a provider (`create_session`). It asks the provider when
its keys are first needed; keys with an expiry are then renewed by asking again, and keys without
one are kept.

The provider is of any kind: the session only needs to ask it.
-/

namespace CloudCredentials

/-! ### The keys of a session -/

/-- A provider as a session sees it: a state, and a way to ask for credentials. -/
abbrev Asking (σ : Type) := σ → World → Except Failure Credentials × σ × World

/-- The keys that a session holds: keys for good, or a lease. -/
inductive SessionKeys
  | fixed (keys : Keys)
  | leased (lease : Lease)
  deriving DecidableEq, Repr

/-- A session: the region it was given, its view of the profiles, and its keys. -/
structure Session where
  region : Option String := none
  view : ActiveProfile := {}
  held : Option SessionKeys := none
  deriving DecidableEq, Repr

namespace Session

variable {σ : Type}

def method : String := "aws-autoconfig"

/-- How long keys without an expiry are used before they are asked for again. -/
def recheck : Int := Time.hour

/-- An expiry as it is passed on: in its written form. -/
def written (t : Time.Timestamp) : ExpiryField := .field (.text t.text)

/-- What credentials make a session hold: a lease when they have an expiry. -/
def keysOf (c : Credentials) : Except Failure SessionKeys :=
  match c.expiration with
  | none => .ok (.fixed c.keys)
  | some t => (written t).read.map fun t => .leased ⟨some c.keys, some t⟩

/-- The delivery that credentials make; without an expiry they last an hour from now. -/
def deliveryOf (c : Credentials) (now : Int) : Delivery :=
  .complete c.keys (written (c.expiration.getD (.ofInstant (now + recheck))))

theorem keysOf_ok {c : Credentials} {held : SessionKeys} (h : keysOf c = .ok held) :
    (c.expiration = none ∧ held = .fixed c.keys) ∨
      ∃ t t', c.expiration = some t ∧ (written t).read = .ok t' ∧
        held = .leased ⟨some c.keys, some t'⟩ := by
  unfold keysOf at h
  cases hx : c.expiration with
  | none =>
    rw [hx] at h
    cases h
    exact .inl ⟨rfl, rfl⟩
  | some t =>
    rw [hx] at h
    dsimp only at h
    cases hr : (written t).read with
    | error failure =>
      rw [hr] at h
      cases h
    | ok t' =>
      rw [hr] at h
      cases h
      exact .inr ⟨t, t', rfl, hr, rfl⟩

def fetch (ask : Asking σ) (s : σ × World) : Except Failure Delivery × σ × World :=
  match ask s.1 s.2 with
  | (.error failure, p, w) => (.error failure, p, w)
  | (.ok credentials, p, w) => (.ok (deliveryOf credentials w.clock), p, w)

def load (ask : Asking σ) (s : Session) (p : σ) (w : World) :
    Except Failure SessionKeys × Session × σ × World :=
  match s.held with
  | some held => (.ok held, s, p, w)
  | none =>
    match ask p w with
    | (.error failure, p, w) => (.error failure, s, p, w)
    | (.ok credentials, p, w) =>
      match keysOf credentials with
      | .error failure => (.error failure, s, p, w)
      | .ok held => (.ok held, { s with held := some held }, p, w)

/-- Use the keys that the session holds, and renew them if that is needed. -/
def useHeld (ask : Asking σ) (held : SessionKeys) (s : Session) (p : σ) (w : World) :
    Except Failure Keys × Session × σ × World :=
  match held with
  | .fixed keys => (.ok keys, s, p, w)
  | .leased lease =>
    let (answer, lease, p, w) := lease.use method (fun (s : σ × World) => s.2.clock) (fetch ask)
      (p, w)
    (answer, { s with held := some (.leased lease) }, p, w)

def keys (ask : Asking σ) (s : Session) (p : σ) (w : World) :
    Except Failure Keys × Session × σ × World :=
  match load ask s p w with
  | (.error failure, s, p, w) => (.error failure, s, p, w)
  | (.ok held, s, p, w) => useHeld ask held s p w

def expiration (s : Session) : Option Time.Timestamp :=
  match s.held with
  | some (.leased lease) => lease.expiry
  | _ => none

def isRenewing (s : Session) : Bool :=
  match s.held with
  | some (.leased _) => true
  | _ => false

theorem keys_of_fixed {ask : Asking σ} {s : Session} {k : Keys} (h : s.held = some (.fixed k))
    (p : σ) (w : World) : s.keys ask p w = (.ok k, s, p, w) := by
  simp [keys, load, useHeld, h]

/-! ### Making sessions -/

def activeRegion (s : Session) (w : World) : Except Failure (Option String) × Session :=
  match s.region with
  | some region => (.ok (some region), s)
  | none =>
    let (region, view) := s.view.region w
    (region, { s with view })

/-- A session, with the region that a region provider gives. The SDK's own session is opened for
it. -/
def create (region : Option RegionProvider) (w : World) : Step Session :=
  let given : Step (Option String) :=
    match region with
    | none => (.ok none, w)
    | some provider =>
      let (answer, w) := provider.get w
      (answer.map some, w)
  match given with
  | (.error failure, w) => (.error failure, w)
  | (.ok region, w) =>
    match ActiveProfile.opened {} w with
    | (.error failure, _) => (.error failure, w)
    | (.ok (), view) => (.ok { region, view }, w)

/-! ### Requests -/

structure Account where
  account : Datum
  user : Datum
  arn : Datum
  deriving DecidableEq, Repr

def identityOperation : String := "GetCallerIdentity"

def accountOf (answer : IdentityAnswer) : Except Failure Account := do
  let account ← InstanceProfile.field answer.fields "Account"
  let user ← InstanceProfile.field answer.fields "UserId"
  let arn ← InstanceProfile.field answer.fields "Arn"
  return ⟨account, user, arn⟩

def requestIdentity (client : Client) (w : World) : Step Account :=
  let (outcome, rest) := w.identity.next (.ok {})
  let w := { w.call (.callerIdentity client) with identity := rest }
  match outcome with
  | .error failure => (.error (failure identityOperation), w)
  | .ok answer => (accountOf answer, w)

/-- Begin the session's client. -/
def clientPlan (s : Session) (w : World) : Except Failure ClientPlan × Session :=
  let (plan, view) := CloudCredentials.clientPlan s.view s.region w
  (plan, { s with view })

/-- The account behind a session's keys (`get_account_info`). The client is made first, which loads
the keys; they are renewed when the request is signed. -/
def account (ask : Asking σ) (s : Session) (p : σ) (w : World) :
    Except Failure Account × Session × σ × World :=
  match clientPlan s w with
  | (.error failure, s) => (.error failure, s, p, w)
  | (.ok plan, s) =>
    match load ask s p w with
    | (.error failure, s, p, w) => (.error failure, s, p, w)
    | (.ok held, s, p, w) =>
      match plan.endpoint w with
      | .error failure => (.error failure, s, p, w)
      | .ok region =>
        match useHeld ask held s p w with
        | (.error failure, s, p, w) => (.error failure, s, p, w)
        | (.ok keys, s, p, w) =>
          let (answer, w) := requestIdentity ⟨region, .signed keys.accessKey⟩ w
          (answer, s, p, w)

/-- Whether a session's keys are valid (`validate_credentials`). Failures of providers and of
the SDK mean that they are not. -/
def validate (ask : Asking σ) (s : Session) (p : σ) (w : World) :
    Except Failure Bool × Session × σ × World :=
  match account ask s p w with
  | (.ok _, s, p, w) => (.ok true, s, p, w)
  | (.error failure, s, p, w) =>
    if failure.isCredentials || failure.isSdk then
      (.ok false, s, p,
        w.record .error .session ("Credential validation failed: " ++ failure.message))
    else (.error failure, s, p, w)

end Session

end CloudCredentials
