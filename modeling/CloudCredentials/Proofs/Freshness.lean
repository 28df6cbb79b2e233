import CloudCredentials.Proofs.Looks

/-!
# Credentials that are handed out have not expired

Providers built from fixed keys, profiles, instance metadata and web identity federation never hand
out keys whose time is past. Keys that are due soon come from an asking that ran a fetch to renew
them, and keys that are due very soon are those that the fetch has brought. The fetch makes a call;
only a role that keeps a reply without keys may serve itself from that reply, and fail without one.
-/

namespace CloudCredentials

open World

/-! ### Fresh credentials -/

/-- Asking the source runs the fetch of this renewal in this world, after a look if need be. The
renewal is due, and the asking ends in the world that the fetch leaves. -/
def Source.Renews (s : Source) (w : World) (r : Renewal) (v : World) : Prop :=
  ∃ s', s.look w = (.ok true, s', v) ∧ s'.renewal? = some r ∧ r.lease.IsDue v.clock ∧
    (s.ask w).2.2 = (r.fetched v).2.2

/-- Credentials are good at an instant, given the asking that they come from and what the services
have delivered to its calls. -/
structure Credentials.Fresh (c : Credentials) (now : Int) (s : Source) (w : World)
    (delivered : List (Except Failure Delivery)) : Prop where
  ahead : ∀ t, c.expiration = some t → t.IsAhead now
  attempted : ∀ t e, c.expiration = some t → t.instant? = some e → e - now < renewalLimit →
    ∃ r v, s.Renews w r v ∧
      (delivered ≠ [] ∨ ∃ reply, r.stored = some reply ∧ ¬ reply.IsUsable)
  renewed : ∀ t e, c.expiration = some t → t.instant? = some e → e - now < mandatoryLimit →
    ∃ r v d, s.Renews w r v ∧ (r.fetched v).1 = .ok d ∧ d.Brings c.keys t ∧
      delivered.getLast? = some (.ok d)

namespace Credentials.Fresh

variable {c : Credentials} {now : Int} {s : Source} {w : World}
  {delivered : List (Except Failure Delivery)}

theorem of_none (h : c.expiration = none) : c.Fresh now s w delivered := by
  constructor
  · intro t ht
    rw [h] at ht
    cases ht
  · intro t e ht
    rw [h] at ht
    cases ht
  · intro t e ht
    rw [h] at ht
    cases ht

theorem of_far {t : Time.Timestamp} {e : Int} (ht : c.expiration = some t)
    (hi : t.instant? = some e) (he : renewalLimit ≤ e - now) : c.Fresh now s w delivered := by
  have hpos : 0 < renewalLimit := by decide
  have hlt : mandatoryLimit < renewalLimit := by decide
  have hsame {t' : Time.Timestamp} {e' : Int} (ht' : c.expiration = some t')
      (hi' : t'.instant? = some e') : e' = e := by
    rw [ht] at ht'
    cases ht'
    rw [hi] at hi'
    exact (Option.some.inj hi').symm
  constructor
  · intro t' ht'
    rw [ht] at ht'
    cases ht'
    exact ⟨e, hi, by omega⟩
  · intro t' e' ht' hi' hl
    have := hsame ht' hi'
    omega
  · intro t' e' ht' hi' hl
    have := hsame ht' hi'
    omega

theorem of_attempt {t : Time.Timestamp} {e : Int} {r : Renewal} {v : World}
    (ht : c.expiration = some t) (hi : t.instant? = some e) (he : mandatoryLimit ≤ e - now)
    (hr : s.Renews w r v)
    (hd : delivered ≠ [] ∨ ∃ reply, r.stored = some reply ∧ ¬ reply.IsUsable) :
    c.Fresh now s w delivered := by
  have hpos : 0 < mandatoryLimit := by decide
  constructor
  · intro t' ht'
    rw [ht] at ht'
    cases ht'
    exact ⟨e, hi, by omega⟩
  · intro _ _ _ _ _
    exact ⟨r, v, hr, hd⟩
  · intro t' e' ht' hi' hl
    rw [ht] at ht'
    cases ht'
    rw [hi] at hi'
    cases hi'
    omega

theorem of_delivery {t : Time.Timestamp} {d : Delivery} {r : Renewal} {v : World}
    (ht : c.expiration = some t) (ha : t.IsAhead now) (hr : s.Renews w r v)
    (hf : (r.fetched v).1 = .ok d) (hb : d.Brings c.keys t)
    (hd : delivered.getLast? = some (.ok d)) : c.Fresh now s w delivered := by
  constructor
  · intro t' ht'
    rw [ht] at ht'
    cases ht'
    exact ha
  · intro _ _ _ _ _
    refine ⟨r, v, hr, .inl fun hn => ?_⟩
    rw [hn] at hd
    cases hd
  · intro t' e' ht' _ _
    rw [ht] at ht'
    cases ht'
    exact ⟨r, v, d, hr, hf, hb, hd⟩

end Credentials.Fresh

/-! ### What a role can read -/

/-- A role that has keys can read its token file. -/
def AssumedRole.Readable (r : AssumedRole) (w : World) : Prop :=
  r.lease.keys.isSome → ∃ token, readToken w r.tokenFile = .ok token

theorem AssumedRole.readToken_files {w v : World} (h : v.files = w.files) (file : String) :
    readToken v file = readToken w file := by
  unfold readToken
  rw [h]

theorem AssumedRole.use_readable {r : AssumedRole} (client : World → Except Failure Client)
    {w : World} (hr : r.Readable w) (hs : r.InStep) :
    (r.use client w).2.1.Readable (r.use client w).2.2 := by
  have hfiles := (use_later r client w).files
  intro hk
  rw [readToken_files hfiles]
  show ∃ token, readToken w r.tokenFile = .ok token
  have hlease : (r.use client w).2.1.lease =
      (r.lease.use method Keeping.clock (r.fetch client) (r.stored, w)).2.1 := rfl
  rw [hlease] at hk
  rcases Lease.use_lease method Keeping.clock (r.fetch client) r.lease (r.stored, w) with
    hl | ⟨d, keys, t, hd, hb, _⟩
  · rw [hl] at hk
    exact hr hk
  · have hf := r.fetch_fetching client (r.stored, w)
    generalize hresult : r.fetch client (r.stored, w) = result at hf
    generalize hstored : r.stored = stored at hf
    cases hf with
    | unclear _ | unasked _ _ | failed _ _ _ _ _ =>
      rw [hresult] at hd
      cases hd
    | served _ =>
      rw [hresult] at hd
      obtain ⟨hunpack, _⟩ := Prod.ext_iff.mp hd
      rw [(RoleReply.unpack_ok hunpack).1] at hb
      refine hr ?_
      rw [hs _ keys t hstored hb]
      rfl
    | answered _ ht _ _ _ => exact ⟨_, ht⟩

/-- What a fetch that is due has to show for itself: a failure has made a call, or comes from a
reply without keys; keys are what its last call has delivered. -/
def Renewal.Shows (r : Renewal) (w : World) (own : List Call) : Prop :=
  (r.lease.keys.isSome → ∀ failure, (r.fetched w).1 = .error failure →
    w.deliveries own ≠ [] ∨ ∃ reply, r.stored = some reply ∧ ¬ reply.IsUsable) ∧
  ∀ d keys t, (r.fetched w).1 = .ok d → d.Brings keys t →
    (w.deliveries own).getLast? = some (.ok d)

theorem AssumedRole.fetched_shows {role : AssumedRole} (client : Client) {w : World}
    (hread : role.Readable w) (hstep : role.InStep) (hdue : role.lease.IsDue w.clock) :
    ∃ own, w.Grew own ((Renewal.ofRole role fun _ => .ok client).fetched w).2.2 ∧
      (Renewal.ofRole role fun _ => .ok client).Shows w own := by
  -- a reply that is looked at and does not give way to a request has no keys
  have unusable {reply : RoleReply} (hkept : role.stored = some reply)
      (hserves : reply.serves w.clock ≠ .ok false) : ¬ reply.IsUsable :=
    fun hu => hserves (hstep.serves_of_isDue hdue hkept hu)
  simp only [Renewal.Shows, Renewal.fetched, Renewal.ofRole]
  have hf := role.fetch_fetching (fun _ => .ok client) (role.stored, w)
  generalize role.fetch (fun _ => .ok client) (role.stored, w) = result at hf
  generalize hstored : role.stored = stored at hf unusable
  cases hf with
  | unclear hserves =>
    refine ⟨[], .refl w, fun _ _ _ => .inr ⟨_, rfl, unusable rfl ?_⟩, fun _ _ _ hd => ?_⟩
    · rw [hserves]
      exact nofun
    · cases hd
  | served hserves =>
    have hno := unusable rfl (by rw [hserves]; exact nofun)
    refine ⟨[], .refl w, fun _ _ _ => .inr ⟨_, rfl, hno⟩, fun d keys t hd hb => ?_⟩
    rw [(RoleReply.unpack_ok hd).1] at hb
    exact absurd ⟨keys, t, hb⟩ hno
  | unasked _ hno =>
    refine ⟨[], .refl w, fun hk _ _ => ?_, fun _ _ _ hd => ?_⟩
    · obtain ⟨token, ht⟩ := hread hk
      rcases hno with hno | hno
      · rw [ht] at hno
        cases hno
      · cases hno
    · cases hd
  | failed _ _ _ hg hd =>
    refine ⟨_, hg, fun _ _ _ => .inl ?_, fun _ _ _ hd => ?_⟩
    · rw [hd]
      exact List.cons_ne_nil _ _
    · cases hd
  | answered _ _ _ hg hd =>
    refine ⟨_, hg, fun _ _ _ => .inl ?_, fun d _ _ hf _ => ?_⟩
    · rw [hd]
      exact List.cons_ne_nil _ _
    · rw [hd, ← (RoleReply.unpack_ok hf).1]
      rfl

/-! ### The invariant -/

def Event.KeepsFiles : Event → Prop
  | .files _ => False
  | _ => True

theorem Event.KeepsFiles.around {e : Event} (h : e.KeepsFiles) (w : World) :
    (e.around w).files = w.files := by
  cases e with
  | files f => exact h.elim
  | _ => rfl

namespace Source

/-- A source that has not been asked, of a kind that renews keys by requests or not at all. -/
def IsNew : Source → Prop
  | .fixed _ => True
  | .instanceProfile state => state.held = none
  | .profile state => state.held = none
  | .webIdentity state _ => state.held = none
  | .standard _ | .scripted .. => False

/-- A source that has been asked since: a role with keys can read its token file, and a role is in
step with the reply that it keeps. -/
def IsSound : Source → World → Prop
  | .fixed _, _ | .instanceProfile _, _ | .profile _, _ => True
  | .webIdentity state _, w => ∀ r, state.held = some r → r.Readable w ∧ r.InStep
  | .standard _, _ | .scripted .., _ => False

theorem IsNew.isSound {s : Source} (h : s.IsNew) (w : World) : s.IsSound w := by
  cases s with
  | webIdentity state refresher =>
    intro r hr
    rw [show state.held = none from h] at hr
    cases hr
  | fixed _ | instanceProfile _ | profile _ => trivial
  | standard _ | scripted _ _ => exact h

theorem IsSound.of_files {s : Source} {w v : World} (h : s.IsSound w) (hf : v.files = w.files) :
    s.IsSound v := by
  cases s with
  | webIdentity state refresher =>
    intro r hr
    obtain ⟨hread, hstep⟩ := h r hr
    refine ⟨fun hk => ?_, hstep⟩
    rw [AssumedRole.readToken_files hf]
    exact hread hk
  | fixed _ | instanceProfile _ | profile _ => trivial
  | standard _ | scripted _ _ => exact h

end Source

namespace Source

theorem IsSound.look {s s' : Source} {w v : World} {found : Except Failure Bool}
    (h : s.IsSound w) (hl : s.look w = (found, s', v)) : s'.IsSound v := by
  have hv : v.files = w.files := by
    have hlater := s.look_later w
    rw [hl] at hlater
    exact hlater.files
  cases s with
  | webIdentity state refresher =>
    obtain ⟨parameters, held⟩ := state
    cases held with
    | some role =>
      cases hl
      exact h
    | none =>
      simp only [Source.look, Backed.look, WebIdentity.backing] at hl
      cases hl
      intro r hr
      cases ho : parameters.load (Backed.looking parameters.shown w) with
      | error failure =>
        rw [ho] at hr
        cases hr
      | ok role =>
        rw [ho] at hr
        cases hr
        obtain ⟨hlease, hstored⟩ := WebIdentity.load_unfetched ho
        refine ⟨fun hk => ?_, AssumedRole.inStep_of_unkept hstored⟩
        rw [hlease] at hk
        cases hk
  | instanceProfile _ | profile _ | fixed _ =>
    cases hl
    trivial
  | standard _ | scripted _ _ => exact h.elim

theorem IsSound.ask {s : Source} {w : World} (h : s.IsSound w) :
    (s.ask w).2.1.IsSound (s.ask w).2.2 := by
  have hlooked := s.look_looked w
  have hsound {found : Except Failure Bool} {s' : Source} {v : World}
      (hl : s.look w = (found, s', v)) : s'.IsSound v := h.look hl
  generalize s.look w = result at hlooked hsound
  cases hlooked with
  | failed _ ha | absent _ ha =>
    rw [ha]
    exact hsound rfl
  | @found s' v hs _ _ ha =>
    rw [ha]
    have hs' := hsound rfl
    cases s' with
    | webIdentity state refresher =>
      obtain ⟨parameters, _ | role⟩ := state
      · cases hs
      · obtain ⟨hread, hstep⟩ := hs' role rfl
        rw [ask_of_renewal (s := .webIdentity ⟨parameters, some role⟩ refresher) rfl v]
        intro r hr
        cases hr
        exact ⟨role.use_readable _ hread hstep, hstep.use _ v⟩
    | instanceProfile _ | profile _ | fixed _ => trivial
    | standard _ | scripted _ _ => exact hs'.elim

theorem IsSound.close {s : Source} {w : World} (h : s.IsSound w) :
    (s.close w).1.IsSound (s.close w).2 := by
  cases s <;> exact h

theorem isSound_invariant : Invariant IsSound Event.KeepsFiles where
  later h hl := h.of_files hl.files
  ask h := h.ask
  close h := h.close
  around he h := h.of_files (he.around _)

/-! ### Asking -/

variable {s : Source} {r : Renewal} {w : World}

theorem IsSound.fetched_shows (hs : s.IsSound w) (hr : s.renewal? = some r)
    (hdue : r.lease.IsDue w.clock) : ∃ own, w.Grew own (r.fetched w).2.2 ∧ r.Shows w own := by
  cases s with
  | instanceProfile state =>
    obtain ⟨lease, _, rfl⟩ := Option.map_eq_some_iff.mp hr
    obtain ⟨hg, hd⟩ := InstanceProfile.fetch_grew w
    refine ⟨_, hg, fun _ _ _ => .inl ?_, fun d _ _ hf _ => ?_⟩
    · rw [hd]
      exact List.cons_ne_nil _ _
    · rw [hd]
      exact congrArg some hf
  | webIdentity state refresher =>
    obtain ⟨role, hheld, rfl⟩ := Option.map_eq_some_iff.mp hr
    obtain ⟨hread, hstep⟩ := hs role hheld
    exact AssumedRole.fetched_shows _ hread hstep hdue
  | fixed _ | profile _ => cases hr
  | standard _ | scripted _ _ => exact hs.elim

/-- Keys that are never renewed do not expire. -/
theorem IsSound.of_unrenewed {s' : Source} {w' : World} {c : Credentials} (hs : s.IsSound w)
    (hl : s.isLoaded = true) (hr : s.renewal? = none) (h : s.ask w = (.ok c, s', w')) :
    c.expiration = none := by
  cases s with
  | fixed keys =>
    cases h
    rfl
  | profile state =>
    rcases ha : state.ask NamedProfile.backing NamedProfile.name state.parameters.shown w
      with ⟨answer, state', v'⟩
    simp only [Source.ask, ha] at h
    cases h
    obtain ⟨_, _, _, _, _, _, _, _, _, rfl⟩ := Backed.ask_ok ha
    rfl
  | instanceProfile state | webIdentity state _ =>
    obtain ⟨_, _ | held⟩ := state
    · cases hl
    · cases hr
  | standard _ | scripted _ _ => exact hs.elim

/-- Keys that a sound source hands out of a lease, after a look, are fresh. The calls of the look
come before those of the use, and do not count against it. -/
theorem IsSound.renewed_fresh {s₁ : Source} {v v' : World} {before : List Call} {keys : Keys}
    {lease : Lease} {kept : Option RoleReply} (hs : s₁.IsSound v)
    (hlook : s.look w = (.ok true, s₁, v)) (ha : s.ask w = s₁.ask v) (hbefore : w.Grew before v)
    (hr : s₁.renewal? = some r) (hu : r.use v = (.ok keys, lease, kept, v'))
    (provider : Option String) : ∃ own, w.Grew own v' ∧
      Credentials.Fresh ⟨keys, lease.expiry, provider⟩ v.clock s w (w.deliveries own) := by
  have renews (hdue : r.lease.IsDue v.clock) : s.Renews w r v := by
    refine ⟨s₁, hlook, hr, hdue, ?_⟩
    rw [ha, ask_of_renewal hr]
    have hnow : r.lease.IsDue (Keeping.clock (r.stored, v)) := hdue
    exact congrArg Prod.snd (Lease.use_of_isDue hnow)
  rcases Lease.use_ok hu with ⟨rfl, hkept, ht⟩ |
    ⟨rfl, hdue, ⟨failure, hf⟩, hk, t, e, ht, hi, hm⟩ | ⟨d, t, hdue, hf, hb, hahead, rfl⟩
  · obtain ⟨_, rfl⟩ := Prod.ext_iff.mp hkept
    refine ⟨_, hbefore, ?_⟩
    cases hx : r.lease.expiry with
    | none => exact .of_none rfl
    | some t =>
      obtain ⟨e, hi, hfar⟩ := ht t hx
      exact .of_far rfl hi hfar
  · obtain ⟨own, hg, hfailed, _⟩ := hs.fetched_shows hr hdue
    simp only [Renewal.fetched, hf] at hg hfailed
    refine ⟨_, hbefore.trans hg, ?_⟩
    rw [hbefore.deliveries_append]
    refine .of_attempt ht hi hm (renews hdue) ?_
    rcases hfailed (by rw [hk]; rfl) failure rfl with hd | hd
    · exact .inl fun hn => hd (List.append_eq_nil_iff.mp hn).2
    · exact .inr hd
  · obtain ⟨own, hg, _, hd⟩ := hs.fetched_shows hr hdue
    have hfetched : (r.fetched v).1 = .ok d := congrArg Prod.fst hf
    have hlast := hd d keys t hfetched hb
    simp only [Renewal.fetched, hf] at hg
    refine ⟨_, hbefore.trans hg, ?_⟩
    rw [hbefore.deliveries_append]
    refine .of_delivery rfl ?_ (renews hdue) hfetched hb ?_
    · exact hg.clock ▸ hahead
    · rw [List.getLast?_append, hlast]
      rfl

/-- The credentials of a sound source are fresh, given what was delivered to the calls that it
has made for them. -/
theorem ask_fresh {s' : Source} {w' : World} {c : Credentials} (hs : s.IsSound w)
    (h : s.ask w = (.ok c, s', w')) :
    ∃ own, w.Grew own w' ∧ c.Fresh w.clock s w (w.deliveries own) := by
  have hlater := s.look_later w
  have hlooked := s.look_looked w
  rcases hlook : s.look w with ⟨found, s₁, v⟩
  have hs₁ := hs.look hlook
  rw [hlook] at hlater hlooked
  generalize hresult : (found, s₁, v) = result at hlooked
  cases hlooked with
  | failed _ ha | absent _ ha =>
    rw [ha] at h
    cases h
  | found hloaded _ _ ha =>
    cases hresult
    rw [ha] at h
    obtain ⟨before, hbefore⟩ := hlater
    rw [← hbefore.clock]
    cases hr : s₁.renewal? with
    | none =>
      obtain ⟨own, hg⟩ := s₁.ask_later v
      rw [h] at hg
      exact ⟨_, hbefore.trans hg, .of_none (hs₁.of_unrenewed hloaded hr h)⟩
    | some r =>
      rw [ask_of_renewal hr] at h
      obtain ⟨hanswer, h⟩ := Prod.ext_iff.mp h
      obtain ⟨_, hworld⟩ := Prod.ext_iff.mp h
      rcases hu : r.use v with ⟨answer, lease, kept, v'⟩
      rw [hu] at hanswer hworld
      obtain rfl : v' = w' := hworld
      obtain ⟨keys, rfl, rfl⟩ := Renewal.answer_ok hanswer
      exact hs₁.renewed_fresh hlook ha hbefore hr hu _

end Source

/-! ### Providers over whole runs -/

def Provider.tokenChain : Provider :=
  .chain [.leaf .ofInstance, .leaf (.ofWebIdentity
    { client := ⟨"us-east-1", .unsigned⟩, role := some "role/app",
      tokenFile := some (.text "token"), session := some "app", asyncUpdate := true } 60)]

def World.tokenKeys : Keys := ⟨.text "ASIASECOND", .text "second-secret", .text "second-token"⟩

/-- The second time a role is assumed, its keys are short-lived. -/
def World.ofToken : World where
  files := [(["token"], .file [116])]
  metadata := [.error fun _ => .metadata "no role"]
  roles := [.ok {}, .ok (.complete tokenKeys (.after (300 * Time.second)))]

end CloudCredentials
