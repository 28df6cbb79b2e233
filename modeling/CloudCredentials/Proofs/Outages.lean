import CloudCredentials.Proofs.NeededCalls

/-!
# Keys outlive an outage

A source that has handed out keys goes on handing them out while the service fails, until they have
to be renewed. What the service answers is another matter: an answer is taken in place of what is
held, and one that lacks fields, shows no time or brings keys that are past is reported.
-/

namespace CloudCredentials

/-! ### Deliveries that are refused -/

theorem Lease.Storing.not_isAhead {method : String} {l l' : Lease} {d : Delivery} {now : Int}
    {failure : Failure} (h : Storing method l d now (.error failure, l')) {keys : Keys}
    {t : Time.Timestamp} (hb : d.Brings keys t) : ¬ t.IsAhead now := by
  intro ha
  obtain ⟨field, hp, hr⟩ := hb
  cases h with
  | incomplete hno =>
    rw [hp] at hno
    cases hno
  | unreadable hp' hr' =>
    rw [hp] at hp'
    cases hp'
    rw [hr] at hr'
    cases hr'
  | faulty hp' hr' hf =>
    rw [hp] at hp'
    cases hp'
    rw [hr] at hr'
    cases hr'
    rw [fault?_eq_none_iff.mpr ha] at hf
    cases hf

/-! ### Asking ahead of time -/

/-- What a source that holds credentials does while they are due and need not be renewed yet. -/
inductive Source.Advised (s : Source) (c : Credentials) (r : Renewal) (w : World) :
    Except Failure Credentials × Source × World → Prop
  | passedOver {failure : Failure} {stored : Option RoleReply} {v : World}
    (hf : r.fetched w = (.error failure, stored, v)) :
    Advised s c r w (.ok c, s.renewed { r with stored }, v)
  | refused {d : Delivery} {failure : Failure} {lease : Lease} {stored : Option RoleReply}
    {v : World} (hf : r.fetched w = (.ok d, stored, v))
    (hs : Lease.Storing r.method r.lease d w.clock (.error failure, lease)) :
    Advised s c r w
      (.error (Backed.reportRenewing s.name failure), s.renewed { r with lease, stored }, v)
  | renewed {d : Delivery} {keys : Keys} {t : Time.Timestamp} {stored : Option RoleReply}
    {v : World} (hf : r.fetched w = (.ok d, stored, v)) (hb : d.Brings keys t)
    (ha : t.IsAhead w.clock) :
    Advised s c r w (Backed.credentials s.name keys (some t),
      s.renewed { r with lease := ⟨some keys, some t⟩, stored }, v)

namespace Source

variable {s : Source} {r : Renewal} {c : Credentials} {w : World}
  {outcomes : List (Except Failure Delivery)} {t : Time.Timestamp} {e : Int}

theorem Holds.ask_advised (h : s.Holds c r) (ht : c.expiration = some t) (he : t.instant? = some e)
    (hleft : mandatoryLimit ≤ e - w.clock) (hnear : e - w.clock < renewalLimit) :
    Advised s c r w (s.ask w) := by
  have hclock : (r.fetched w).2.2.clock = w.clock := (fetched_later h.renewal w).clock
  have hadvisory : Need.ofLeft (e - w.clock) = .advisory := by
    rw [Need.ofLeft, if_neg (Int.not_le.mpr hnear), if_pos hleft]
  have hneed : r.lease.need (Keeping.clock (r.stored, w)) = .ok .advisory := by
    rw [h.lease, ht]
    simp only [Lease.need, he, Keeping.clock, hadvisory]
  rw [ask_of_renewal h.renewal]
  have hused := Lease.use_using r.method Keeping.clock r.fetch r.lease (r.stored, w)
  unfold Renewal.used Renewal.use
  generalize r.lease.use r.method Keeping.clock r.fetch (r.stored, w) = used at hused
  cases hused with
  | unclear hn | kept hn | failed hn _ =>
    rw [hneed] at hn
    cases hn
  | passedOver _ hf =>
    have hhand : r.lease.handOut = .ok c.keys := by rw [h.lease, Lease.handOut]
    rw [hhand, h.answer]
    exact .passedOver hf
  | refused _ _ hf hs =>
    rw [Renewal.fetched, hf] at hclock
    rw [show Keeping.clock _ = w.clock from hclock] at hs
    exact .refused hf hs
  | renewed _ _ hf hp hr ha =>
    rw [Renewal.fetched, hf] at hclock
    rw [show Keeping.clock _ = w.clock from hclock] at ha
    exact .renewed hf ⟨_, hp, hr⟩ ha

/-- An outcome at which keys that live for a while can still be handed out: a failure, or good keys
in their place. -/
def IsBearable (outcome : Except Failure Delivery) (now : Int) : Prop :=
  ∀ d, outcome = .ok d → ∃ keys t, d.Brings keys t ∧ t.IsAhead now ∧ keys.isComplete = true

namespace Advised

variable {asked : Except Failure Credentials × Source × World}

theorem world (h : Advised s c r w asked) : asked.2.2 = (r.fetched w).2.2 := by
  cases h with
  | passedOver hf | refused hf _ | renewed hf _ _ => rw [hf]

theorem isOk_iff (h : Advised s c r w asked) :
    asked.1.isOk = true ↔ IsBearable (r.fetched w).1 w.clock := by
  cases h with
  | passedOver hf =>
    rw [hf]
    refine iff_of_true rfl fun d hd => ?_
    cases hd
  | refused hf hs =>
    rw [hf]
    refine iff_of_false Bool.noConfusion fun hbearable => ?_
    obtain ⟨keys, t, hb, ha, _⟩ := hbearable _ rfl
    exact hs.not_isAhead hb ha
  | @renewed d keys t _ v hf hb ha =>
    rw [hf]
    refine (Backed.credentials_isOk s.name keys (some t)).trans ⟨fun hk d' hd' => ?_, fun h => ?_⟩
    · cases hd'
      exact ⟨keys, t, hb, ha, hk⟩
    · obtain ⟨keys', _, hb', _, hk⟩ := h d rfl
      rw [(hb.unique hb').1]
      exact hk

theorem answer {c' : Credentials} (h : Advised s c r w asked) (hc : asked.1 = .ok c') :
    c' = c ∨ c'.keys.isComplete = true ∧ ∃ t, c'.expiration = some t ∧ t.IsAhead w.clock ∧
      ∃ d, (r.fetched w).1 = .ok d ∧ d.Brings c'.keys t := by
  cases h with
  | passedOver _ => exact .inl (Except.ok.inj hc).symm
  | refused _ _ => cases hc
  | @renewed d keys t _ v hf hb ha =>
    have hk := Backed.isComplete_of_credentials hc
    simp only [Backed.credentials] at hc
    split at hc
    · cases hc
      rw [hf]
      exact .inr ⟨hk, t, rfl, ha, d, rfl, hb⟩
    · cases hc

/-- What a fetch brings that lacks fields is reported; the lease stays as it was. -/
theorem lacking {d : Delivery} (h : Advised s c r w asked) (hd : (r.fetched w).1 = .ok d)
    (hm : d.missing ≠ []) :
    asked.1 = .error (.renewing s.name (.incompleteKeys r.method d.missing)) ∧
      asked.2.1 = s.renewed { r with stored := (r.fetched w).2.1 } := by
  cases h with
  | passedOver hf =>
    rw [hf] at hd
    cases hd
  | refused hf hs =>
    rw [hf] at hd ⊢
    cases hd
    cases hs with
    | incomplete _ => exact ⟨rfl, rfl⟩
    | unreadable hp _ | faulty hp _ _ =>
      rw [(Delivery.parts?_eq_none_iff d).mpr hm] at hp
      cases hp
  | renewed hf hb _ =>
    rw [hf] at hd
    cases hd
    exact absurd hb.missing hm

/-- A fetch that fails is passed over. -/
theorem passed {failure : Failure} (h : Advised s c r w asked)
    (hf : (r.fetched w).1 = .error failure) :
    asked.1 = .ok c ∧ asked.2.1 = s.renewed { r with stored := (r.fetched w).2.1 } := by
  cases h with
  | passedOver hf' =>
    rw [hf']
    exact ⟨rfl, rfl⟩
  | refused hf' _ | renewed hf' _ _ =>
    rw [hf'] at hf
    cases hf

end Advised

/-! ### Answers that lack fields -/

/-- Metadata that lacks fields is what the fetch brings. -/
theorem fetched_of_metadata {state : Backed Unit Lease} {d : Delivery}
    (hr : (Source.instanceProfile state).renewal? = some r)
    (hd : .ok d ∈ w.delivered (r.fetched w).2.2) :
    (r.fetched w).1 = .ok d ∧ (r.fetched w).2.1 = r.stored := by
  obtain ⟨lease, _, rfl⟩ := Option.map_eq_some_iff.mp hr
  obtain ⟨hg, hdeliveries⟩ := InstanceProfile.fetch_grew w
  have hdelivered : w.delivered (InstanceProfile.fetch w).2 = [(InstanceProfile.fetch w).1] :=
    hg.delivered.trans hdeliveries
  have hmem : .ok d ∈ w.delivered (InstanceProfile.fetch w).2 := hd
  rw [hdelivered] at hmem
  exact ⟨(List.mem_singleton.mp hmem).symm, rfl⟩

/-- Of a reply about a role that lacks fields the fetch makes a failure. -/
theorem fetched_of_reply {state : Backed WebIdentity AssumedRole} {refresher : Refresher}
    {d : Delivery} (hr : (Source.webIdentity state refresher).renewal? = some r)
    (hd : .ok d ∈ w.delivered (r.fetched w).2.2) (hm : d.missing ≠ []) :
    ∃ failure, (r.fetched w).1 = .error failure := by
  obtain ⟨role, _, rfl⟩ := Option.map_eq_some_iff.mp hr
  obtain ⟨_, name, _, _, _, hf⟩ :=
    role.fetch_of_lacking (fun _ => .ok state.parameters.client) (s := (role.stored, w)) hd hm
  exact ⟨.missingField name, congrArg Prod.fst hf⟩

end Source

theorem Watched.run_name (s : Watched) (turns : List Turn) :
    (s.run turns).source.name = s.source.name := by
  induction turns generalizing s with
  | nil => rfl
  | cons t rest ih =>
    refine (ih (s.turn t)).trans ?_
    unfold turn
    cases t.background with
    | false => exact s.source.ask_name _
    | true =>
      rcases s.source.tick_source (t.change s.world) with ⟨hs, _⟩ | ⟨hs, _⟩
      · exact congrArg Source.name hs
      · exact (congrArg Source.name hs).trans (s.source.ask_name _)

namespace Source

variable {s : Source} {c : Credentials} {t : Time.Timestamp} {e : Int}

end Source

/-- The metadata service is gone while keys that it gave for an hour have 800 seconds left. -/
def World.ofOutage : World :=
  { World.ofMetadata.advance (2800 * Time.second) with
    metadata := [.error fun _ => .metadata "gone"] }

/-- The metadata service gives keys for an hour; then it has no role. -/
def World.ofLapse : World where
  metadata :=
    [.ok {
        fields := [("role_name", .text "app"), ("access_key", .text "ASIAFIRST"),
          ("secret_key", .text "first-secret"), ("token", .text "first-token")]
        expiresIn := some Time.hour },
      .ok {}]

end CloudCredentials
