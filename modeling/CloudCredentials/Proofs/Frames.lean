import CloudCredentials.Proofs.LeaseUse
import CloudCredentials.Provider.Source

/-!
# What services do not read

The metadata service and the token service read their scripts, the clock and the files. A change of
anything else commutes with their calls, and so with renewing keys.
-/

namespace CloudCredentials

/-- A change of a world that leaves alone what services read, and that can as well be made after a
call. -/
structure World.IsFrame (change : World → World) : Prop where
  files : ∀ w, (change w).files = w.files
  clock : ∀ w, (change w).clock = w.clock
  metadata : ∀ w, (change w).metadata = w.metadata
  roles : ∀ w, (change w).roles = w.roles
  callMetadata : ∀ w rest, { (change w).call .metadata with metadata := rest } =
    change { w.call .metadata with metadata := rest }
  callRoles : ∀ w c rest, { (change w).call c with roles := rest } =
    change { w.call c with roles := rest }

variable {change : World → World} (hc : World.IsFrame change) (w : World)

include hc

/-! ### Leases -/

theorem Lease.use_frame {method : String} {fetch : World → Except Failure Delivery × World}
    (hf : ∀ w, fetch (change w) = ((fetch w).1, change (fetch w).2)) (l : Lease) :
    l.use method World.clock fetch (change w) =
      ((l.use method World.clock fetch w).1, (l.use method World.clock fetch w).2.1,
        change (l.use method World.clock fetch w).2.2) :=
  use_map change method hc.clock hf l w

/-! ### The metadata service -/

namespace InstanceProfile

theorem query_frame : query (change w) = ((query w).1, change (query w).2) := by
  unfold query
  rw [hc.metadata]
  generalize w.metadata.next (.ok {}) = next
  obtain ⟨outcome, rest⟩ := next
  dsimp only
  rw [hc.callMetadata]
  cases outcome with
  | error failure => rfl
  | ok answer =>
    simp only [World.clock_call, hc.clock]

theorem fetch_frame : fetch (change w) = ((fetch w).1, change (fetch w).2) := by
  unfold fetch
  rw [query_frame hc]
  rcases query w with ⟨answer, v⟩
  cases answer <;> rfl

theorem load_frame : load (change w) = ((load w).1, change (load w).2) := by
  unfold load
  rw [query_frame hc]
  rcases query w with ⟨answer, v⟩
  cases answer with
  | error failure => rfl
  | ok fields =>
    dsimp only
    split <;> rfl

theorem use_frame (l : Lease) :
    use l (change w) = ((use l w).1, (use l w).2.1, change (use l w).2.2) :=
  Lease.use_frame hc w (fetch_frame hc) l

end InstanceProfile

/-! ### The token service -/

namespace AssumedRole

variable (r : AssumedRole)

theorem readToken_frame (file : String) : readToken (change w) file = readToken w file := by
  simp only [readToken, hc.files]

theorem request_frame (token : String) (client : Client) :
    r.request token client (change w) =
      ((r.request token client w).1, change (r.request token client w).2) := by
  unfold request
  rw [hc.roles]
  generalize w.roles.next (.ok {}) = next
  obtain ⟨outcome, rest⟩ := next
  dsimp only
  rw [hc.callRoles]
  cases outcome with
  | error failure => rfl
  | ok answer =>
    simp only [World.clock_call, hc.clock]

variable {client : World → Except Failure Client} (hclient : ∀ w, client (change w) = client w)

include hclient

theorem ask_frame : r.ask client (change w) = ((r.ask client w).1, change (r.ask client w).2) := by
  unfold ask
  rw [readToken_frame hc, hclient]
  cases readToken w r.tokenFile with
  | error failure => rfl
  | ok token =>
    cases client w with
    | error failure => rfl
    | ok c => exact request_frame hc w r token c

theorem fetch_frame (stored : Option RoleReply) : r.fetch client (stored, change w) =
    ((r.fetch client (stored, w)).1, (r.fetch client (stored, w)).2.1,
      change (r.fetch client (stored, w)).2.2) := by
  unfold fetch
  rw [hc.clock]
  cases RoleReply.serving? stored w.clock with
  | error failure => rfl
  | ok serving =>
    cases serving with
    | some reply => rfl
    | none =>
      dsimp only
      rw [ask_frame hc w r hclient]
      rcases r.ask client w with ⟨failure | reply, v⟩
      · rfl
      · rfl

theorem use_frame : r.use client (change w) =
    ((r.use client w).1, (r.use client w).2.1, change (r.use client w).2.2) := by
  unfold use
  have hclock (s : Keeping) : Keeping.clock (s.1, change s.2) = s.clock := hc.clock s.2
  have hu := Lease.use_map (fun s : Keeping => (s.1, change s.2)) method hclock
    (fun s => fetch_frame hc s.2 r hclient s.1) r.lease (r.stored, w)
  dsimp only at hu ⊢
  rw [hu]

end AssumedRole

end CloudCredentials
