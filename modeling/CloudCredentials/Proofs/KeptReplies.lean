import CloudCredentials.Proofs.Deliveries
import CloudCredentials.Proofs.LeaseUse

/-!
# Replies that are kept

A role keeps the last reply of the token service, and a fetch takes the keys from it again while it
serves. The ways in which a fetch ends are its cases. The lease of a role holds what the kept reply
has brought; so a reply that serves although the lease is due is one from which no keys can be
taken, and with any other reply a fetch that is due gets as far as a request, if the token and a
client are to be had.
-/

namespace CloudCredentials

open World

/-! ### Replies -/

namespace RoleReply

/-- Keys can be taken from the reply, and a time. -/
def IsUsable (reply : RoleReply) : Prop := ∃ keys t, reply.delivery.Brings keys t

variable {reply : RoleReply}

theorem missing?_eq_none_iff : reply.missing? = none ↔ reply.delivery.missing = [] := by
  rcases reply with _ | ⟨accessKey, secretKey, token, expiry⟩
  · exact iff_of_false (fun h => by cases h) (List.cons_ne_nil _ _)
  · cases accessKey <;> cases secretKey <;> cases token <;> cases expiry <;>
      simp [missing?, delivery, Delivery.missing]

theorem unpack_ok {d : Delivery} (h : reply.unpack = .ok d) :
    d = reply.delivery ∧ d.missing = [] := by
  unfold unpack at h
  split at h
  · cases h
  · rename_i hm
    cases h
    exact ⟨rfl, missing?_eq_none_iff.mp hm⟩

theorem unpack_error {failure : Failure} (h : reply.unpack = .error failure) :
    ∃ name, reply.missing? = some name ∧ failure = .missingField name := by
  unfold unpack at h
  split at h
  · rename_i name hm
    cases h
    exact ⟨name, hm, rfl⟩
  · cases h

theorem unpack_of_missing (h : reply.delivery.missing ≠ []) :
    ∃ name, reply.missing? = some name ∧ reply.unpack = .error (.missingField name) := by
  unfold unpack
  cases hm : reply.missing? with
  | some name => exact ⟨name, rfl, rfl⟩
  | none => exact absurd (missing?_eq_none_iff.mp hm) h

theorem unpack_of_brings {keys : Keys} {t : Time.Timestamp} (h : reply.delivery.Brings keys t) :
    reply.unpack = .ok reply.delivery := by
  rw [unpack, missing?_eq_none_iff.mpr h.missing]

theorem timeOf_of_read {field : ExpiryField} {t : Time.Timestamp} (h : field.read = .ok t) :
    timeOf field = .ok t := by
  cases field with
  | field d => exact h
  | time time =>
    simp only [ExpiryField.read] at h
    split at h
    · exact h
    · cases h

/-- A reply that has brought keys serves while they live long enough. -/
theorem serves_of_brings {keys : Keys} {t : Time.Timestamp} {e : Int}
    (h : reply.delivery.Brings keys t) (he : t.instant? = some e) (now : Int) :
    reply.serves now = .ok (servingLimit ≤ e - now) := by
  obtain ⟨field, hp, hr⟩ := h
  rcases reply with _ | ⟨accessKey, secretKey, token, expiry⟩
  · cases hp
  · cases accessKey <;> cases secretKey <;> cases token <;> cases expiry <;> cases hp
    simp only [serves, timeOf_of_read hr, he]

theorem serves_error {now : Int} {failure : Failure} (h : reply.serves now = .error failure) :
    (∃ name, failure = .missingField name) ∨ (∃ fault, failure = .time fault) ∨
      ∃ mismatch, failure = .mismatch mismatch := by
  unfold serves at h
  split at h
  · exact .inl ⟨_, (Except.error.inj h).symm⟩
  · split at h
    · exact .inl ⟨_, (Except.error.inj h).symm⟩
    · split at h
      · rename_i hr
        cases h
        unfold timeOf at hr
        split at hr
        · cases hr
        · unfold readTime at hr
          split at hr
          · split at hr
            · cases hr
            · exact .inr (.inl ⟨_, (Except.error.inj hr).symm⟩)
          · exact .inr (.inr ⟨_, (Except.error.inj hr).symm⟩)
      · split at h
        · exact .inr (.inr ⟨_, (Except.error.inj h).symm⟩)
        · cases h

end RoleReply

/-! ### Fetches -/

namespace AssumedRole

/-- How a fetch of keys ends: the reply that is kept cannot be looked at, or serves; the token or
the client is not to be had; the request fails, or it is answered. -/
inductive Fetching (r : AssumedRole) (client : World → Except Failure Client) :
    Keeping → Except Failure Delivery × Keeping → Prop
  | unclear {reply : RoleReply} {w : World} {failure : Failure}
    (hs : reply.serves w.clock = .error failure) :
    Fetching r client (some reply, w) (.error failure, some reply, w)
  | served {reply : RoleReply} {w : World} (hs : reply.serves w.clock = .ok true) :
    Fetching r client (some reply, w) (reply.unpack, some reply, w)
  | unasked {stored : Option RoleReply} {w : World} {failure : Failure}
    (hs : ∀ reply, stored = some reply → reply.serves w.clock = .ok false)
    (hno : readToken w r.tokenFile = .error failure ∨ client w = .error failure) :
    Fetching r client (stored, w) (.error failure, stored, w)
  | failed {stored : Option RoleReply} {w v : World} {token : String} {c : Client}
    {failure : Failure} (hs : ∀ reply, stored = some reply → reply.serves w.clock = .ok false)
    (ht : readToken w r.tokenFile = .ok token) (hc : client w = .ok c)
    (hg : w.Grew [.assumeRole r.role r.session token c] v)
    (hd : w.deliveries [.assumeRole r.role r.session token c] = [.error failure]) :
    Fetching r client (stored, w) (.error failure, stored, v)
  | answered {stored : Option RoleReply} {w v : World} {token : String} {c : Client}
    {reply : RoleReply} (hs : ∀ reply, stored = some reply → reply.serves w.clock = .ok false)
    (ht : readToken w r.tokenFile = .ok token) (hc : client w = .ok c)
    (hg : w.Grew [.assumeRole r.role r.session token c] v)
    (hd : w.deliveries [.assumeRole r.role r.session token c] = [.ok reply.delivery]) :
    Fetching r client (stored, w) (reply.unpack, some reply, v)

variable (r : AssumedRole) (client : World → Except Failure Client)

theorem fetch_fetching (s : Keeping) : Fetching r client s (r.fetch client s) := by
  obtain ⟨stored, w⟩ := s
  -- without a reply that serves, the token and the client are looked for
  have asked (hs : ∀ reply, stored = some reply → reply.serves w.clock = .ok false)
      (hn : RoleReply.serving? stored w.clock = .ok none) :
      Fetching r client (stored, w) (r.fetch client (stored, w)) := by
    simp only [fetch, hn, ask]
    cases ht : readToken w r.tokenFile with
    | error failure => exact .unasked hs (.inl ht)
    | ok token =>
      dsimp only
      cases hc : client w with
      | error failure => exact .unasked hs (.inr hc)
      | ok c =>
        dsimp only
        obtain ⟨hg, hd⟩ := r.request_grew token c w
        rcases hr : r.request token c w with ⟨failure | reply, v⟩
        · rw [hr] at hg hd
          exact .failed hs ht hc hg hd
        · rw [hr] at hg hd
          exact .answered hs ht hc hg hd
  cases stored with
  | none => exact asked (fun _ h => by cases h) rfl
  | some reply =>
    cases hs : reply.serves w.clock with
    | error failure =>
      simp only [fetch, RoleReply.serving?, hs, Except.map]
      exact .unclear hs
    | ok serves =>
      cases serves with
      | true =>
        simp only [fetch, RoleReply.serving?, hs, Except.map, if_true]
        exact .served hs
      | false =>
        refine asked (fun _ h => ?_) ?_
        · cases h
          exact hs
        · simp [RoleReply.serving?, hs, Except.map]

/-- What a fetch makes of a reply that it keeps and that has brought keys: these keys, if it fails
in no other way. -/
theorem fetch_kept {s : Keeping} {reply : RoleReply} {keys : Keys} {t : Time.Timestamp}
    (h : (r.fetch client s).2.1 = some reply) (hb : reply.delivery.Brings keys t) :
    (r.fetch client s).1 = .ok reply.delivery ∨
      s.1 = some reply ∧ ∃ failure, (r.fetch client s).1 = .error failure := by
  have hf := r.fetch_fetching client s
  generalize r.fetch client s = result at h hf
  cases hf with
  | unclear _ | unasked _ _ | failed _ _ _ _ _ => exact .inr ⟨h, _, rfl⟩
  | served _ | answered _ _ _ _ _ =>
    cases h
    exact .inl (RoleReply.unpack_of_brings hb)

/-- A reply that does not give way to a request stays kept. -/
theorem fetch_stored {reply : RoleReply} {w : World} (h : reply.serves w.clock ≠ .ok false) :
    (r.fetch client (some reply, w)).2.1 = some reply := by
  have hf := r.fetch_fetching client (some reply, w)
  generalize r.fetch client (some reply, w) = result at hf
  cases hf with
  | unclear _ | served _ | unasked _ _ | failed _ _ _ _ _ => rfl
  | answered hs _ _ _ _ => exact absurd (hs reply rfl) h

/-- What a fetch brings has all its fields. -/
theorem fetch_complete {s : Keeping} {d : Delivery} (h : (r.fetch client s).1 = .ok d) :
    d.missing = [] := by
  have hf := r.fetch_fetching client s
  generalize r.fetch client s = result at h hf
  cases hf with
  | unclear _ | unasked _ _ | failed _ _ _ _ _ => cases h
  | served _ | answered _ _ _ _ _ => exact (RoleReply.unpack_ok h).2

/-- A fetch that fails by a failure of the SDK or of the system leaves the reply that is kept. -/
theorem fetch_stored_of_isWrapped {s : Keeping} {failure : Failure}
    (h : (r.fetch client s).1 = .error failure) (hw : failure.isWrapped = true) :
    (r.fetch client s).2.1 = s.1 := by
  have hf := r.fetch_fetching client s
  generalize r.fetch client s = result at h hf
  cases hf with
  | unclear _ | served _ | unasked _ _ | failed _ _ _ _ _ => rfl
  | answered _ _ _ _ _ =>
    obtain ⟨_, _, rfl⟩ := RoleReply.unpack_error h
    cases hw

/-- A reply that comes in and lacks a part is kept and fails the fetch. -/
theorem fetch_of_lacking {s : Keeping} {d : Delivery}
    (hd : .ok d ∈ s.2.delivered (r.fetch client s).2.2) (hm : d.missing ≠ []) :
    ∃ reply name v, reply.delivery = d ∧ reply.missing? = some name ∧
      r.fetch client s = (.error (.missingField name), some reply, v) := by
  have hf := r.fetch_fetching client s
  generalize r.fetch client s = result at hd hf
  cases hf with
  | unclear _ | served _ | unasked _ _ =>
    rw [(Grew.refl _).delivered] at hd
    cases hd
  | failed _ _ _ hg hdeliveries =>
    rw [hg.delivered, hdeliveries] at hd
    cases List.mem_singleton.mp hd
  | answered _ _ _ hg hdeliveries =>
    rw [hg.delivered, hdeliveries] at hd
    cases List.mem_singleton.mp hd
    obtain ⟨name, hname, hu⟩ := RoleReply.unpack_of_missing hm
    rw [hu]
    exact ⟨_, name, _, rfl, hname, rfl⟩

/-- What a fetch leaves of the world: all but for a request, which it makes at most. -/
theorem fetch_grew (s : Keeping) : ∃ own, s.2.Grew own (r.fetch client s).2.2 ∧
    (own = [] ∨ ∃ token c, readToken s.2 r.tokenFile = .ok token ∧ client s.2 = .ok c ∧
      own = [.assumeRole r.role r.session token c]) := by
  have hf := r.fetch_fetching client s
  generalize r.fetch client s = result at hf
  cases hf with
  | unclear _ | served _ | unasked _ _ => exact ⟨[], .refl _, .inl rfl⟩
  | failed _ ht hc hg _ | answered _ ht hc hg _ => exact ⟨_, hg, .inr ⟨_, _, ht, hc, rfl⟩⟩

/-! ### What is kept and what is held -/

/-- What the kept reply has brought is what the role holds. -/
def InStep (r : AssumedRole) : Prop :=
  ∀ reply keys t, r.stored = some reply → reply.delivery.Brings keys t →
    r.lease = ⟨some keys, some t⟩

variable {r : AssumedRole} {w : World}

theorem inStep_of_unkept (h : r.stored = none) : r.InStep := by
  intro reply keys t hs
  rw [h] at hs
  cases hs

/-- The reply that is kept does not serve a role that is due, unless no keys can be taken from
it. -/
theorem InStep.serves_of_isDue (h : r.InStep) (hdue : r.lease.IsDue w.clock) {reply : RoleReply}
    (hs : r.stored = some reply) (hu : reply.IsUsable) : reply.serves w.clock = .ok false := by
  obtain ⟨keys, t, hb⟩ := hu
  rw [h reply keys t hs hb] at hdue
  obtain ⟨e, he, hnear⟩ := Lease.isDue_iff.mp hdue
  have hlimit : RoleReply.servingLimit = renewalLimit := rfl
  rw [RoleReply.serves_of_brings hb he, hlimit, decide_eq_false (Int.not_le.mpr hnear)]

theorem use_stored (client : World → Except Failure Client) (hdue : r.lease.IsDue w.clock) :
    (r.use client w).2.1.stored = (r.fetch client (r.stored, w)).2.1 := by
  have hnow : r.lease.IsDue (Keeping.clock (r.stored, w)) := hdue
  simp only [use, Lease.use_of_isDue hnow]

/-- If a use that is due leaves no reply without keys, the reply that was kept before gives way: it
would be kept still if it did not, and would have keys then. -/
theorem InStep.serves_of_use (h : r.InStep) (client : World → Except Failure Client)
    (hdue : r.lease.IsDue w.clock)
    (hkept : ∀ reply, (r.use client w).2.1.stored = some reply → reply.IsUsable)
    {reply : RoleReply} (hs : r.stored = some reply) : reply.serves w.clock = .ok false := by
  refine Classical.byContradiction fun hno => hno ?_
  refine h.serves_of_isDue hdue hs (hkept reply ?_)
  rw [use_stored client hdue, hs]
  exact r.fetch_stored client hno

/-- Using a role keeps it in step with the reply. -/
theorem InStep.use (h : r.InStep) (client : World → Except Failure Client) (w : World) :
    (r.use client w).2.1.InStep := by
  have hlease : (r.use client w).2.1.lease =
      (r.lease.use method Keeping.clock (r.fetch client) (r.stored, w)).2.1 := rfl
  have hstored : (r.use client w).2.1.stored =
      (r.lease.use method Keeping.clock (r.fetch client) (r.stored, w)).2.2.1 := rfl
  intro reply keys t hs hb
  rw [hlease]
  rw [hstored] at hs
  by_cases hdue : r.lease.IsDue (Keeping.clock (r.stored, w))
  · rw [Lease.use_of_isDue hdue] at hs
    rcases r.fetch_kept client hs hb with hf | ⟨hkept, failure, hf⟩
    · have hfetched : r.fetch client (r.stored, w) =
          (.ok reply.delivery, (r.fetch client (r.stored, w)).2) := Prod.ext hf rfl
      rw [Lease.use_of_brings hdue hfetched hb]
    · rcases Lease.use_lease method Keeping.clock (r.fetch client) r.lease (r.stored, w) with
        hl | ⟨_, _, _, hd, _⟩
      · rw [hl]
        exact h reply keys t hkept hb
      · rw [hd] at hf
        cases hf
  · rw [Lease.use_of_not_isDue hdue] at hs ⊢
    exact h reply keys t hs hb

end AssumedRole

end CloudCredentials
