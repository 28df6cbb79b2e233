import CloudCredentials.Proofs.BackgroundRounds
import CloudCredentials.Proofs.SingleDelivery

/-!
# Renewal ahead of time

A background task asks a source of web identity federation once in an interval, so that its keys
are renewed before callers need new ones. The task and the callers renew keys at the same limit. As
long as the token service grants keys for an hour, what is left of them never falls short of that
limit by more than the interval; but below the limit a caller sends the request, if it comes before
the task.
-/

namespace CloudCredentials

open World

/-! ### A service that grants keys -/

/-- The token can be read, and the token service grants keys for an hour whenever it is asked. -/
structure World.Grants (w : World) (tokenFile : String) : Prop where
  token : ∃ token, AssumedRole.readToken w tokenFile = .ok token
  roles : ∀ outcome ∈ w.roles, ∃ keys, outcome = .ok (.complete keys (.after Time.hour))

theorem Script.next_grants {roles : Script (Outcome RoleAnswer)}
    (h : ∀ outcome ∈ roles, ∃ keys, outcome = .ok (.complete keys (.after Time.hour))) :
    (∃ keys, (roles.next (.ok {})).1 = .ok (.complete keys (.after Time.hour))) ∧
      ∀ outcome ∈ (roles.next (.ok {})).2,
        ∃ keys, outcome = .ok (.complete keys (.after Time.hour)) := by
  cases roles with
  | nil => exact ⟨⟨⟨.text "ASIASTS", .text "sts-secret", .text "sts-token"⟩, rfl⟩, h⟩
  | cons first rest =>
    cases rest with
    | nil => exact ⟨h first List.mem_cons_self, h⟩
    | cons second rest =>
      exact ⟨h first List.mem_cons_self, fun o ho => h o (List.mem_cons_of_mem _ ho)⟩

theorem World.Grants.logged {w v : World} {tokenFile : String} (h : w.Grants tokenFile)
    (hl : w.Logged v) : v.Grants tokenFile := by
  obtain ⟨log, rfl⟩ := hl
  exact ⟨h.token, h.roles⟩

/-- The event leaves the token readable and the service granting keys. -/
def Event.KeepsGrants (e : Event) (tokenFile : String) : Prop :=
  ∀ w : World, w.Grants tokenFile → (e.around w).Grants tokenFile

namespace AssumedRole

variable {r : AssumedRole} {w : World}

/-- A fetch from a service that grants keys, when no reply serves, is one request, and delivers keys
for an hour. -/
theorem fetch_granted (client : Client) (h : w.Grants r.tokenFile)
    (hs : ∀ reply, r.stored = some reply → reply.serves w.clock = .ok false) :
    ∃ token keys reply v, r.fetch (fun _ => .ok client) (r.stored, w) =
        (.ok (.complete keys (.time (.ofInstant (w.clock + Time.hour)))), some reply, v) ∧
      reply.IsUsable ∧ w.Grew [.assumeRole r.role r.session token client] v ∧
      v.Grants r.tokenFile := by
  obtain ⟨token, ht⟩ := h.token
  obtain ⟨⟨keys, hk⟩, hrest⟩ := Script.next_grants h.roles
  have hnone : RoleReply.serving? r.stored w.clock = .ok none := by
    cases hstored : r.stored with
    | none => rfl
    | some reply => simp [RoleReply.serving?, hs reply hstored, Except.map]
  let granted : Delivery := .complete keys (.time (.ofInstant (w.clock + Time.hour)))
  have hreply : RoleReply.ofAnswer (.complete keys (.after Time.hour)) w.clock = some granted := rfl
  have hgrew := (request_grew r token client w).1
  simp only [request, hk, World.clock_call] at hgrew
  refine ⟨token, keys, some granted, _, ?_, ⟨keys, _, _, rfl, rfl⟩, hgrew, h.token, hrest⟩
  simp only [fetch, hnone, ask, ht, request, hk, World.clock_call, hreply]
  rfl

end AssumedRole

/-! ### Leases of granted keys -/

namespace Lease

/-- The lease has keys, and they live until an instant. -/
def LastsUntil (l : Lease) (e : Int) : Prop :=
  ∃ keys t, l = ⟨some keys, some t⟩ ∧ t.instant? = some e

theorem LastsUntil.need {l : Lease} {e : Int} (h : l.LastsUntil e) (now : Int) :
    l.need now = .ok (Need.ofLeft (e - now)) := by
  obtain ⟨keys, t, rfl, ht⟩ := h
  simp only [Lease.need, ht]

/-- A lease whose keys were delivered, and need no renewal, lasts until an instant far enough. -/
theorem Follows.lastsUntil {l : Lease} {outcomes : List (Except Failure Delivery)}
    (h : l.Follows outcomes) {now : Int} (hn : l.need now = .ok .unneeded) :
    ∃ e, l.LastsUntil e ∧ renewalLimit ≤ e - now := by
  obtain ⟨keys, hk, hfar⟩ := need_unneeded hn
  obtain ⟨t, ht, _⟩ := h keys hk
  obtain ⟨e, he, hleft⟩ := hfar t ht
  obtain ⟨heldKeys, expiry⟩ := l
  cases hk
  cases ht
  exact ⟨e, ⟨keys, t, rfl, he⟩, hleft⟩

end Lease

namespace AssumedRole

variable {r : AssumedRole} {w : World}

/-- Using a role, when the service grants keys: its lease is kept, or it is renewed for an hour by
one request. -/
theorem use_granted (client : Client) (h : w.Grants r.tokenFile) {need : Need}
    (hn : r.lease.need w.clock = .ok need) (hs : r.lease.IsDue w.clock →
      ∀ reply, r.stored = some reply → reply.serves w.clock = .ok false) :
    (need = .unneeded ∧ r.use (fun _ => .ok client) w = (r.lease.handOut, r, w)) ∨
      (need ≠ .unneeded ∧ ∃ token keys lease reply v, lease.LastsUntil (w.clock + Time.hour) ∧
        reply.IsUsable ∧
        r.use (fun _ => .ok client) w = (.ok keys, { r with lease, stored := some reply }, v) ∧
        w.Grew [.assumeRole r.role r.session token client] v ∧ v.Grants r.tokenFile) := by
  by_cases hu : need = .unneeded
  · subst hu
    refine .inl ⟨rfl, ?_⟩
    have hneed : r.lease.need (Keeping.clock (r.stored, w)) = .ok .unneeded := hn
    simp only [use, Lease.use_of_unneeded hneed]
  · obtain ⟨token, keys, reply, v, hf, hreply, hg, hv⟩ := fetch_granted client h (hs ⟨_, hn, hu⟩)
    have hahead : (Time.Timestamp.ofInstant (w.clock + Time.hour)).IsAhead v.clock := by
      have hhour : (0 : Int) ≤ Time.hour := by decide
      refine ⟨_, Time.Timestamp.instant?_ofInstant _, ?_⟩
      rw [hg.clock]
      omega
    refine .inr ⟨hu, token, keys, ⟨some keys, some (.ofInstant (w.clock + Time.hour))⟩, reply, v,
      ⟨_, _, rfl, Time.Timestamp.instant?_ofInstant _⟩, hreply, ?_, hg, hv⟩
    have hdue : r.lease.IsDue (Keeping.clock (r.stored, w)) := ⟨_, hn, hu⟩
    have hbrings : (Delivery.complete keys
        (.time (.ofInstant (w.clock + Time.hour)))).Brings keys
        (.ofInstant (w.clock + Time.hour)) := ⟨_, rfl, rfl⟩
    simp only [use, Lease.use_of_ahead hdue hf hbrings hahead]

end AssumedRole

/-! ### Before the first round -/

theorem WebIdentity.holding_follows {parameters : WebIdentity} {client : Client} {shown : String}
    {p : Backed WebIdentity AssumedRole} {w v : World} {r : AssumedRole}
    {outcomes : List (Except Failure Delivery)}
    (hs : ∀ r, p.held = some r → r.Follows outcomes)
    (hh : Backed.Holding (backing client) shown p w r parameters v) :
    r.Follows outcomes ∧ w.Logged v := by
  cases hh with
  | held hh => exact ⟨hs r hh, .refl w⟩
  | found hh hl =>
    simp only [backing, Prod.mk.injEq] at hl
    obtain ⟨hr, _, rfl⟩ := hl
    cases ho : p.parameters.load (Backed.looking shown w) with
    | error failure =>
      rw [ho] at hr
      cases hr
    | ok found =>
      rw [ho] at hr
      cases hr
      exact ⟨load_follows ho outcomes, (Logged.refl w).record ..⟩

namespace Source

theorem follows_invariant :
    Invariant (fun s _ => ∃ outcomes, s.Follows outcomes) (fun _ => True) where
  later h _ := h
  ask {s w} h := by
    obtain ⟨outcomes, h⟩ := h
    obtain ⟨_, _, hf, _⟩ := ask_follows h w
    exact ⟨_, hf⟩
  close {s w} h := by
    obtain ⟨outcomes, h⟩ := h
    cases s with
    | instanceProfile _ | webIdentity _ _ => exact ⟨outcomes, h⟩
    | _ => exact h.elim
  around _ h := h

/-- A source of federation that has just answered, when the service grants keys, has keys that need
no renewal, if the reply that it keeps has keys. -/
theorem ask_granted {s : Source} {w v : World} {c : Credentials} {parameters : WebIdentity}
    {role : AssumedRole} {refresher : Refresher} {outcomes : List (Except Failure Delivery)}
    (hs : s.Follows outcomes) (hw : w.Grants role.tokenFile)
    (hkept : ∀ reply, role.stored = some reply → reply.IsUsable)
    (h : s.ask w = (.ok c, .webIdentity ⟨parameters, some role⟩ refresher, v)) :
    v.Grants role.tokenFile ∧ role.InStep ∧
      ∃ e, role.lease.LastsUntil e ∧ renewalLimit ≤ e - v.clock := by
  cases s with
  | webIdentity state refresher' =>
    rcases ha : state.ask (WebIdentity.backing state.parameters.client) WebIdentity.name
      state.parameters.shown w with ⟨answer, state', v'⟩
    simp only [Source.ask, ha] at h
    cases h
    obtain ⟨held, held', _, v₁, keys, hh, hu, hp, _, _⟩ := Backed.ask_ok ha
    cases hp
    obtain ⟨hf, hl⟩ := WebIdentity.holding_follows hs hh
    replace hu : held.use (fun _ => .ok state.parameters.client) v₁ = (.ok keys, role, v) := hu
    have hstep := hf.inStep.use (fun _ => .ok state.parameters.client) v₁
    rw [hu] at hstep
    have hfile : role.tokenFile = held.tokenFile := by
      have hfixed := (AssumedRole.use_fixed (fun _ => .ok state.parameters.client) held v₁).2.2
      rw [hu] at hfixed
      exact hfixed
    rw [hfile] at hw ⊢
    have hw₁ := hw.logged hl
    have hserves (hdue : held.lease.IsDue v₁.clock) (reply : RoleReply)
        (hstored : held.stored = some reply) : reply.serves v₁.clock = .ok false := by
      refine hf.inStep.serves_of_use (fun _ => .ok state.parameters.client) hdue ?_ hstored
      rw [hu]
      exact hkept
    cases hn : held.lease.need v₁.clock with
    | error failure =>
      have hneed : held.lease.need (Keeping.clock (held.stored, v₁)) = .error failure := hn
      simp only [AssumedRole.use, Lease.use, hneed] at hu
      cases hu
    | ok need =>
      rcases AssumedRole.use_granted state.parameters.client hw₁ hn hserves with
        ⟨rfl, hsame⟩ | ⟨_, token, keys', lease, reply, v₂, hlasts, _, hrenewed, hg, hv⟩
      · obtain ⟨_, rfl, rfl⟩ : _ ∧ held = role ∧ v₁ = v := by simpa [hsame] using hu
        exact ⟨hw₁, hstep, hf.lease.lastsUntil hn⟩
      · rw [hrenewed] at hu
        cases hu
        refine ⟨hv, hstep, _, hlasts, ?_⟩
        have hhour : renewalLimit ≤ Time.hour := by decide
        rw [hg.clock]
        omega
  | _ => simp [Source.ask] at h

/-! ### A source that holds keys -/

/-- The source of federation that has assumed a role, holds a lease of its keys and keeps a
reply. -/
def ofLease (given : WebIdentity) (refresher : Refresher) (role : AssumedRole) (lease : Lease)
    (stored : Option RoleReply) : Source :=
  .webIdentity ⟨given, some { role with lease, stored }⟩ refresher

variable {role : AssumedRole} {lease : Lease} {stored : Option RoleReply} {e : Int} {w : World}

/-- Asking a source that holds keys: nothing happens while the limit of renewal is not reached, and
one request renews the keys for an hour after that. -/
theorem ask_ofLease (given : WebIdentity) (refresher : Refresher) (hl : lease.LastsUntil e)
    (hstep : ({ role with lease, stored } : AssumedRole).InStep)
    (hkept : ∀ reply, stored = some reply → reply.IsUsable) (hw : w.Grants role.tokenFile) :
    (renewalLimit ≤ e - w.clock ∧ ((ofLease given refresher role lease stored).ask w).2 =
        (ofLease given refresher role lease stored, w)) ∨
      (e - w.clock < renewalLimit ∧ ∃ token renewed reply v,
        ((ofLease given refresher role lease stored).ask w).2 =
          (ofLease given refresher role renewed (some reply), v) ∧
        renewed.LastsUntil (w.clock + Time.hour) ∧
        ({ role with lease := renewed, stored := some reply } : AssumedRole).InStep ∧
        reply.IsUsable ∧ w.Grew [.assumeRole role.role role.session token given.client] v ∧
        v.Grants role.tokenFile) := by
  have hheld : (Backed.mk given (some { role with lease, stored })).hold
      (WebIdentity.backing given.client) WebIdentity.name given.shown w =
        (.ok { role with lease, stored }, ⟨given, some { role with lease, stored }⟩, w) :=
    Backed.hold_of_held rfl w
  have hneed := hl.need w.clock
  have hlimit := Need.ofLeft_eq_unneeded_iff (e - w.clock)
  rcases AssumedRole.use_granted (r := { role with lease, stored }) given.client hw hneed
      (fun hdue _ hs => hstep.serves_of_isDue hdue hs (hkept _ hs)) with
    ⟨hn, hu⟩ | ⟨hn, token, keys, renewed, reply, v, hr, hreply, hu, hg, hv⟩
  · refine .inl ⟨hlimit.mp hn, ?_⟩
    simp only [ofLease, ask]
    rw [Backed.ask_of_hold hheld hu]
  · have hnext := hstep.use (fun _ => .ok given.client) w
    rw [hu] at hnext
    refine .inr ⟨Int.not_le.mp fun hfar => hn (hlimit.mpr hfar), token, renewed, reply, v, ?_, hr,
      hnext, hreply, hg, hv⟩
    simp only [ofLease, ask]
    rw [Backed.ask_of_hold hheld hu]

end Source

/-! ### Rounds in time -/

/-- How long the last round of the first source is past after the events, if one comes whenever
the interval is over, and never before. -/
def Event.paced? (interval : Int) : Int → List Event → Option Int
  | since, [] => if since ≤ interval then some since else none
  | since, .tick 0 :: rest => if since = interval then paced? interval 0 rest else none
  | since, .advance micros :: rest => paced? interval (since + micros) rest
  | _, .close :: _ => none
  | since, _ :: rest => paced? interval since rest

namespace Provider

/-- The provider is a source that holds keys of a role, and they last beyond the limit of renewal
but for the time since the last round. -/
inductive Ahead (given : WebIdentity) (refresher : Refresher) (role : AssumedRole) (since : Int) :
    Provider × World → Prop
  | intro {lease : Lease} {stored : Option RoleReply} {e : Int} {w : World}
    (hl : lease.LastsUntil e) (hstep : ({ role with lease, stored } : AssumedRole).InStep)
    (hkept : ∀ reply, stored = some reply → reply.IsUsable) (hw : w.Grants role.tokenFile)
    (he : renewalLimit - since ≤ e - w.clock) :
    Ahead given refresher role since (.leaf (.ofLease given refresher role lease stored), w)

namespace Ahead

variable {given : WebIdentity} {refresher : Refresher} {role : AssumedRole} {since later : Int}
  {s : Provider × World}

theorem mono (h : Ahead given refresher role since s) (hle : since ≤ later) :
    Ahead given refresher role later s := by
  cases h with
  | intro hl hstep hkept hw he => exact .intro hl hstep hkept hw (by omega)

theorem around {e : Event} (h : Ahead given refresher role since s)
    (he : e.KeepsGrants role.tokenFile) (hc : (e.around s.2).clock = s.2.clock) :
    Ahead given refresher role since (s.1, e.around s.2) := by
  cases h with
  | intro hl hstep hkept hw hleft => exact .intro hl hstep hkept (he _ hw) (hc ▸ hleft)

theorem advance (h : Ahead given refresher role since s) (micros : Nat) :
    Ahead given refresher role (since + micros) (s.1, s.2.advance micros) := by
  cases h with
  | @intro _ _ e w hl hstep hkept hw he =>
    have hleft : renewalLimit - (since + micros) ≤ e - (w.clock + micros) := by omega
    exact .intro hl hstep hkept ⟨hw.token, hw.roles⟩ hleft

theorem logged {p : Provider} {w v : World} (h : Ahead given refresher role since (p, w))
    (hl : w.Logged v) : Ahead given refresher role since (p, v) := by
  cases h with
  | intro hlasts hstep hkept hw he =>
    have hgranted := hw.logged hl
    obtain ⟨log, rfl⟩ := hl
    exact .intro hlasts hstep hkept hgranted he

/-- Asking leaves keys that last beyond the limit. -/
theorem resolve (h : Ahead given refresher role since s) :
    Ahead given refresher role 0 (s.1.resolve s.2).2 := by
  cases h with
  | @intro lease stored e w hl hstep hkept hw _ =>
    change Ahead given refresher role 0
      (.leaf ((Source.ofLease given refresher role lease stored).ask w).2.1,
        ((Source.ofLease given refresher role lease stored).ask w).2.2)
    rcases Source.ask_ofLease given refresher hl hstep hkept hw with
      ⟨hfar, ha⟩ | ⟨_, token, renewed, reply, v, ha, hr, hnext, hreply, hg, hv⟩
    · have hleft : renewalLimit - 0 ≤ e - w.clock := by omega
      rw [ha]
      exact .intro hl hstep hkept hw hleft
    · have hhour : renewalLimit ≤ Time.hour := by decide
      have hleft : renewalLimit - 0 ≤ w.clock + Time.hour - v.clock := by
        rw [hg.clock]
        omega
      rw [ha]
      refine .intro hr hnext (fun other hother => ?_) hv hleft
      cases hother
      exact hreply

theorem tick (h : Ahead given refresher role since s) :
    Ahead given refresher role 0 (step (.tick 0) s) := by
  have hasked := h.resolve
  cases h with
  | @intro lease stored e w _ _ _ _ _ =>
    obtain ⟨hs, hlogged, _⟩ :=
      Background.tick_leaves Source.ask (Source.ofLease given refresher role lease stored) w
    change Ahead given refresher role 0
      (.leaf (Background.tick Source.ask (Source.ofLease given refresher role lease stored) w).2.1,
        (Background.tick Source.ask (Source.ofLease given refresher role lease stored) w).2.2)
    rw [hs]
    exact hasked.logged hlogged

/-- The first round that goes well leaves keys that last beyond the limit. -/
theorem first {s : Source} {w v : World} {c : Credentials}
    {outcomes : List (Except Failure Delivery)} (hs : s.Follows outcomes)
    (hw : w.Grants role.tokenFile) (hkept : ∀ reply, role.stored = some reply → reply.IsUsable)
    (h : s.ask w = (.ok c, .webIdentity ⟨given, some role⟩ refresher, v)) :
    Ahead given refresher role 0 (Provider.step (.tick 0) (.leaf s, w)) := by
  obtain ⟨hv, hstep, e, hlasts, hleft⟩ := Source.ask_granted hs hw hkept h
  have htick : Background.tick Source.ask s w =
      (.ok (), .webIdentity ⟨given, some role⟩ refresher, v) := by
    simp only [Background.tick, h]
  cases s with
  | webIdentity state refresher' =>
    change Ahead given refresher role 0
      (.leaf (Background.tick Source.ask (.webIdentity state refresher') w).2.1,
        (Background.tick Source.ask (.webIdentity state refresher') w).2.2)
    rw [htick]
    have hleft : renewalLimit - 0 ≤ e - v.clock := by omega
    exact .intro hlasts hstep hkept hv hleft
  | _ => simp [Source.ask] at h

theorem step {interval last : Int} {e : Event} {rest : List Event} (hs : 0 ≤ since)
    (h : Ahead given refresher role since s) (he : e.KeepsGrants role.tokenFile)
    (hp : Event.paced? interval since (e :: rest) = some last) :
    ∃ now, 0 ≤ now ∧ Event.paced? interval now rest = some last ∧
      Ahead given refresher role now (Provider.step e s) := by
  cases e with
  | resolve => exact ⟨since, hs, hp, h.resolve.mono hs⟩
  | tick place =>
    cases place with
    | zero =>
      simp only [Event.paced?] at hp
      split at hp
      · exact ⟨0, Int.le_refl 0, hp, h.tick⟩
      · cases hp
    | succ place =>
      cases h with
      | intro hl hstep hkept hw hleft => exact ⟨since, hs, hp, .intro hl hstep hkept hw hleft⟩
  | close => cases hp
  | advance micros => exact ⟨since + micros, by omega, hp, h.advance micros⟩
  | environment _ | files _ | scripts _ _ | sdk _ _ _ | support _ =>
    exact ⟨since, hs, hp, h.around he rfl⟩

/-- However long ago the last round is, the keys last beyond the limit but for that time. -/
theorem run {interval last : Int} {events : List Event} (hs : 0 ≤ since)
    (h : Ahead given refresher role since s) (he : ∀ e ∈ events, e.KeepsGrants role.tokenFile)
    (hp : Event.paced? interval since events = some last) :
    last ≤ interval ∧ Ahead given refresher role last (Provider.run events s) := by
  induction events generalizing since s with
  | nil =>
    simp only [Event.paced?] at hp
    split at hp
    · cases hp
      exact ⟨‹_›, h⟩
    · cases hp
  | cons e rest ih =>
    obtain ⟨now, hn, hrest, hstep⟩ := step hs h (he e List.mem_cons_self) hp
    rw [Provider.run_cons]
    exact ih hn hstep (fun x hx => he x (List.mem_cons_of_mem _ hx)) hrest

end Ahead

/-- What keys are left to a source of federation whose task makes its rounds in time, and what the
next caller does, when the token service grants keys for an hour whenever it is asked. From the
first round on, if that leaves a reply with keys or none, the keys last beyond the limit of
renewal, but for the time since the last round. A caller who comes before the limit sends no
request; one who comes after it, and before the next round, sends one. -/
theorem run_renewed_ahead {given given' : WebIdentity} {interval last : Int}
    {before events : List Event} {w₀ w v : World} {s : Source} {c : Credentials}
    {role : AssumedRole} {refresher : Refresher}
    (hb : run before (.leaf (.ofWebIdentity given interval), w₀) = (.leaf s, w))
    (hw : w.Grants role.tokenFile)
    (hfirst : s.ask w = (.ok c, .webIdentity ⟨given', some role⟩ refresher, v))
    (hkept : ∀ reply, role.stored = some reply → reply.IsUsable)
    (he : ∀ e ∈ events, e.KeepsGrants role.tokenFile)
    (hp : Event.paced? refresher.interval 0 events = some last) :
    ∃ lease stored e u, run (.tick 0 :: events) (.leaf s, w) =
        (.leaf (.ofLease given' refresher role lease stored), u) ∧ lease.LastsUntil e ∧
      renewalLimit - last ≤ e - u.clock ∧ last ≤ refresher.interval ∧
      (renewalLimit ≤ e - u.clock →
        (resolve (.leaf (.ofLease given' refresher role lease stored)) u).2.2.calls = u.calls) ∧
      (e - u.clock < renewalLimit → ∃ token,
        (resolve (.leaf (.ofLease given' refresher role lease stored)) u).2.2.calls =
          u.calls ++ [.assumeRole role.role role.session token given'.client]) := by
  have hstart : Each (fun s _ => ∃ outcomes, s.Follows outcomes)
      (.leaf (.ofWebIdentity given interval), w₀) := by
    intro s hs
    cases List.mem_singleton.mp hs
    exact ⟨[], (Source.Renewing.webIdentity given interval).follows⟩
  have hafter : Each (fun s _ => ∃ outcomes, s.Follows outcomes)
      (run before (.leaf (.ofWebIdentity given interval), w₀)) :=
    Source.follows_invariant.run (fun e _ => trivial) hstart
  rw [hb] at hafter
  obtain ⟨outcomes, hf⟩ := hafter s List.mem_cons_self
  obtain ⟨hle, hahead⟩ := (Ahead.first hf hw hkept hfirst).run (Int.le_refl 0) he hp
  rw [run_cons]
  generalize run events (step (.tick 0) (.leaf s, w)) = t at hahead
  cases hahead with
  | @intro lease stored e u hl hstep hkept hu hend =>
    refine ⟨lease, stored, e, u, rfl, hl, hend, hle, ?_⟩
    have hresolve : (resolve (.leaf (.ofLease given' refresher role lease stored)) u).2.2 =
        ((Source.ofLease given' refresher role lease stored).ask u).2.2 := rfl
    rw [hresolve]
    rcases Source.ask_ofLease given' refresher hl hstep hkept hu with
      ⟨hfar, ha⟩ | ⟨hnear, token, _, _, _, ha, _, _, _, hg, _⟩
    · rw [ha]
      exact ⟨fun _ => rfl, fun hnear => absurd hfar (Int.not_le.mpr hnear)⟩
    · rw [ha]
      exact ⟨fun hfar => absurd hfar (Int.not_le.mpr hnear), fun _ => ⟨token, hg.calls⟩⟩

/-- A role with a token file, renewed in the background. -/
def backgroundRole : WebIdentity :=
  { client := ⟨"us-east-1", .unsigned⟩, role := some "role/app", tokenFile := some (.text "token"),
    session := some "app", asyncUpdate := true }

def withToken : World where
  files := [(["token"], .file [65])]

/-- So many minutes, and a round at the end of each. -/
def rounds (minutes : Nat) : List Event :=
  (List.replicate minutes [.advance 60000000, .tick 0]).flatten

theorem keepsGrants_of_mem_rounds {e : Event} {minutes : Nat} (h : e ∈ rounds minutes)
    (tokenFile : String) : e.KeepsGrants tokenFile := by
  simp only [rounds, List.mem_flatten, List.mem_replicate] at h
  obtain ⟨_, ⟨_, rfl⟩, h⟩ := h
  simp only [List.mem_cons, List.not_mem_nil, or_false] at h
  rcases h with rfl | rfl
  · exact fun w hw => ⟨hw.token, hw.roles⟩
  · exact fun w hw => hw

/-- Fourteen minutes before the first keys expire the task renews them, and the next caller sends
no request. -/
theorem run_renewed_ahead_rounds : ∃ s u,
    run (.tick 0 :: rounds 46)
        (.leaf (.ofWebIdentity backgroundRole (60 * Time.second)), withToken) = (.leaf s, u) ∧
      u.calls.length = 2 ∧ (resolve (.leaf s) u).2.2.calls = u.calls := by
  have hgrants : withToken.Grants "token" := ⟨⟨_, rfl⟩, fun _ h => by cases h⟩
  have hpaced : Event.paced? (60 * Time.second) 0 (rounds 46) = some 0 := rfl
  have hmade : run [] (.leaf (.ofWebIdentity backgroundRole (60 * Time.second)), withToken) =
      (.leaf (.ofWebIdentity backgroundRole (60 * Time.second)), withToken) := rfl
  let keys : Keys := ⟨.text "ASIASTS", .text "sts-secret", .text "sts-token"⟩
  let granted : Time.Timestamp := .ofInstant Time.hour
  let role : AssumedRole := ⟨"role/app", "app", "token", ⟨some keys, some granted⟩,
    some (some (.complete keys (.time granted)))⟩
  have hfirst : (Source.ofWebIdentity backgroundRole (60 * Time.second)).ask withToken =
      (.ok ⟨keys, some granted, some WebIdentity.name⟩, .webIdentity ⟨backgroundRole, some role⟩
        (.start true (60 * Time.second)), _) := rfl
  have hkept : ∀ reply, role.stored = some reply → reply.IsUsable := by
    intro reply h
    cases h
    exact ⟨keys, granted, _, rfl, rfl⟩
  obtain ⟨lease, stored, e, u, hrun, _, hleft, _, hfar, _⟩ := run_renewed_ahead hmade hgrants
    hfirst hkept (fun _ he => keepsGrants_of_mem_rounds he _) hpaced
  have hcalls : (run (.tick 0 :: rounds 46) (.leaf (.ofWebIdentity backgroundRole
      (60 * Time.second)), withToken)).2.calls.length = 2 := rfl
  rw [hrun] at hcalls
  exact ⟨_, u, hrun, hcalls, hfar (by omega)⟩

/-- Three quarters of an hour after the first round, and one second after the last one, the next
caller sends a request. -/
theorem resolve_blocks_betweenRounds :
    let events := rounds 45 ++ [.advance 1000000]
    let s := run (.tick 0 :: events)
      (.leaf (.ofWebIdentity backgroundRole (60 * Time.second)), withToken)
    withToken.Grants "token" ∧ Event.paced? (60 * Time.second) 0 events = some Time.second ∧
      s.2.calls.length = 1 ∧ (resolve s.1 s.2).2.2.calls = s.2.calls ++
        [.assumeRole "role/app" "app" "A" backgroundRole.client] :=
  ⟨⟨⟨_, rfl⟩, fun _ h => by cases h⟩, rfl, rfl, rfl⟩

end Provider

end CloudCredentials
