import CloudCredentials.World

/-!
# Sources that load once

Most sources look for their keys when they are first asked and keep what they have found
(`_BotocoreCredentialsProvider`). Until something is found every request looks again; afterwards
requests only use what is held, which may renew its keys.
-/

namespace CloudCredentials

/-- How a source finds what it holds, how that is used, and when its keys expire. -/
structure Backing (σ η : Type) where
  load : σ → World → Except Failure (Option η) × σ × World
  use : η → World → Except Failure Keys × η × World
  expiration : η → Option Time.Timestamp

structure Backed (σ η : Type) where
  parameters : σ
  held : Option η := none

namespace Backed

variable {σ η : Type}

/-- Report a failure of loading in the provider's name, when it is one of the SDK or the
system. -/
def reportLoading (name : String) (failure : Failure) : Failure :=
  if failure.isWrapped then .loading name failure else failure

/-- Report a failure of renewing in the provider's name, when it is one of the SDK or the
system. -/
def reportRenewing (name : String) (failure : Failure) : Failure :=
  if failure.isWrapped then .renewing name failure else failure

/-- What the source holds, after looking for it if need be (`_get_botocore_credentials`). -/
def hold (b : Backing σ η) (name shown : String) (p : Backed σ η) (w : World) :
    Except Failure η × Backed σ η × World :=
  match p.held with
  | some held => (.ok held, p, w)
  | none =>
    let w := w.record .debug .providers ("Looking for credentials via " ++ shown)
    match b.load p.parameters w with
    | (.error failure, parameters, w) =>
      (.error (reportLoading name failure), ⟨parameters, none⟩, w)
    | (.ok none, parameters, w) => (.error (.notFound name .nothing), ⟨parameters, none⟩, w)
    | (.ok (some held), parameters, w) => (.ok held, ⟨parameters, some held⟩, w)

/-- The credentials that keys make; both keys of the pair must have content. -/
def credentials (name : String) (keys : Keys) (expiration : Option Time.Timestamp) :
    Except Failure Credentials :=
  if keys.isComplete then .ok ⟨keys, expiration, some name⟩
  else .error (.notFound name .incomplete)

/-- Use what the source holds (`resolve_credentials`). -/
def ask (b : Backing σ η) (name shown : String) (p : Backed σ η) (w : World) :
    Except Failure Credentials × Backed σ η × World :=
  match hold b name shown p w with
  | (.error failure, p, w) => (.error failure, p, w)
  | (.ok held, p, w) =>
    match b.use held w with
    | (.error failure, held, w) =>
      (.error (reportRenewing name failure), { p with held := some held }, w)
    | (.ok keys, held, w) =>
      (credentials name keys (b.expiration held), { p with held := some held }, w)

theorem hold_of_held {b : Backing σ η} {name shown : String} {p : Backed σ η} {held : η}
    (h : p.held = some held) (w : World) : hold b name shown p w = (.ok held, p, w) := by
  simp [hold, h]

theorem isComplete_of_credentials {name : String} {keys : Keys}
    {expiration : Option Time.Timestamp} {c : Credentials}
    (h : credentials name keys expiration = .ok c) : c.keys.isComplete = true := by
  unfold credentials at h
  split at h
  · cases h
    assumption
  · cases h

end Backed

end CloudCredentials
