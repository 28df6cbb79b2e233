import CloudCredentials.Proofs.SettledRole

/-!
# Calls are made when they are needed

A source that renews its keys makes one call at most when it is asked: the one that renews the keys
that it holds, once they are due. Only a source that has nothing yet looks for keys first, and may
renew what it has found at once. Keys that are not due are handed out again and again, without a
call, whatever happens around the source.
-/

namespace CloudCredentials

open World

/-! ### What a source holds after it has answered -/

theorem Lease.instant_of_use {σ : Type} {method : String} {clock : σ → Int}
    {fetch : σ → Except Failure Delivery × σ} {l l' : Lease} {s s' : σ} {keys : Keys}
    (h : l.use method clock fetch s = (.ok keys, l', s')) (t : Time.Timestamp)
    (ht : l'.expiry = some t) : ∃ e, t.instant? = some e := by
  rcases use_ok h with ⟨rfl, _, hfar⟩ | ⟨rfl, _, _, _, t', e, ht', he, _⟩ |
    ⟨_, t', _, _, _, ⟨e, he, _⟩, rfl⟩
  · obtain ⟨e, he, _⟩ := hfar t ht
    exact ⟨e, he⟩
  · cases ht.symm.trans ht'
    exact ⟨e, he⟩
  · cases ht
    exact ⟨e, he⟩

/-- The keys that a source renews are those of some credentials, and it would hand out these. -/
structure Source.Holds (s : Source) (c : Credentials) (r : Renewal) : Prop where
  renewal : s.renewal? = some r
  lease : r.lease = ⟨some c.keys, c.expiration⟩
  answer : Renewal.answer s.name r.lease (.ok c.keys) = .ok c
  instant : ∀ t, c.expiration = some t → ∃ e, t.instant? = some e

namespace Source

variable {s s' : Source} {r : Renewal} {c : Credentials} {w w' : World}
  {outcomes : List (Except Failure Delivery)}

theorem holds_of_ask (hs : s.Follows outcomes) (h : s.ask w = (.ok c, s', w')) :
    ∃ r, s'.Holds c r := by
  cases s with
  | instanceProfile state =>
    rcases ha : state.ask InstanceProfile.backing InstanceProfile.name InstanceProfile.shown w
      with ⟨answer, state', v'⟩
    simp only [Source.ask, ha] at h
    cases h
    obtain ⟨_, lease, _, _, keys, _, hu, rfl, hk, rfl⟩ := Backed.ask_ok ha
    obtain ⟨held, expiry⟩ := lease
    obtain rfl : held = some keys := Lease.keys_of_use hu
    exact ⟨_, rfl, rfl, Renewal.answer_of_isComplete _ hk, Lease.instant_of_use hu⟩
  | webIdentity state refresher =>
    rcases ha : state.ask (WebIdentity.backing state.parameters.client) WebIdentity.name
      state.parameters.shown w with ⟨answer, state', v'⟩
    simp only [Source.ask, ha] at h
    cases h
    obtain ⟨held, role, _, _, keys, _, hu, rfl, hk, rfl⟩ := Backed.ask_ok ha
    simp only [WebIdentity.backing, AssumedRole.use, Prod.mk.injEq] at hu
    obtain ⟨hanswer, rfl, _⟩ := hu
    have hused := Prod.ext (y := (Except.ok keys, _, _)) hanswer rfl
    refine ⟨_, rfl, ?_, Renewal.answer_of_isComplete _ hk, Lease.instant_of_use hused⟩
    exact congrArg (Lease.mk · _) (Lease.keys_of_use hused)
  | fixed _ | profile _ | standard _ | scripted _ _ => exact hs.elim

/-- While the keys that a source has handed out are not due, asking it again does nothing. -/
theorem Holds.ask_idle (h : s.Holds c r) {t : Time.Timestamp} {e : Int}
    (ht : c.expiration = some t) (he : t.instant? = some e) (hfar : renewalLimit ≤ e - w.clock) :
    s.ask w = (.ok c, s, w) := by
  have hneed : r.lease.need (Keeping.clock (r.stored, w)) = .ok .unneeded := by
    rw [h.lease, ht]
    simp only [Lease.need, he, Keeping.clock]
    rw [(Need.ofLeft_eq_unneeded_iff _).mpr hfar]
  have hused : r.use w = (.ok c.keys, r.lease, r.stored, w) := by
    rw [Renewal.use, Lease.use_of_unneeded hneed, Lease.handOut, h.lease]
  rw [ask_of_renewal h.renewal, Renewal.used, hused, h.answer, renewed_self h.renewal]

end Source

/-! ### Turns without a call -/

namespace Watched

variable {s : Watched} {c : Credentials} {r : Renewal} {t : Time.Timestamp} {e : Int}

/-- What the turns of a source are answered, in order. -/
def answers (s : Watched) : List Turn → List (Except Failure Credentials)
  | [] => []
  | t :: rest => (s.source.ask (t.change s.world)).1 :: (s.turn t).answers rest

theorem turn_idle (h : s.source.Holds c r) (ht : c.expiration = some t) (he : t.instant? = some e)
    (turn : Turn) (hfar : renewalLimit ≤ e - (turn.change s.world).clock) :
    (s.turn turn).source = s.source ∧ (s.turn turn).world = turn.change s.world := by
  have hidle := h.ask_idle ht he hfar
  have htick : s.source.tick (turn.change s.world) = (s.source, turn.change s.world) := by
    unfold Source.tick
    split
    · rw [Background.tick, hidle]
    · rfl
  unfold Watched.turn
  cases turn.background with
  | false => simp [hidle]
  | true => simp [htick]

theorem run_idle (h : s.source.Holds c r) (ht : c.expiration = some t) (he : t.instant? = some e)
    {turns : List Turn} (hfar : ∀ u ∈ s.asked turns, renewalLimit ≤ e - u.clock) :
    (s.run turns).source = s.source ∧
      (s.run turns).world = turns.foldl (fun w turn => turn.change w) s.world ∧
      s.answers turns = List.replicate turns.length (.ok c) := by
  induction turns generalizing s with
  | nil => exact ⟨rfl, rfl, rfl⟩
  | cons first rest ih =>
    have hnow := hfar _ List.mem_cons_self
    obtain ⟨hsource, hworld⟩ := turn_idle h ht he first hnow
    -- the rest of the turns starts with the same source, so it is idle too
    have hnext : (s.turn first).source.Holds c r := by
      rw [hsource]
      exact h
    obtain ⟨hs, hw, ha⟩ := ih hnext fun u hu => hfar u (List.mem_cons_of_mem _ hu)
    refine ⟨hs.trans hsource, ?_, ?_⟩
    · rw [List.foldl_cons, ← hworld]
      exact hw
    · rw [answers, ha, h.ask_idle ht he hnow]
      rfl

end Watched

/-! ### How many calls a source makes -/

namespace InstanceProfile

theorem use_calls (l : Lease) (w : World) :
    ∃ calls, w.Grew calls (use l w).2.2 ∧ calls.length ≤ 1 ∧ (calls ≠ [] → l.IsDue w.clock) := by
  by_cases hdue : l.IsDue w.clock
  · refine ⟨[.metadata], ?_, Nat.le_refl 1, fun _ => hdue⟩
    rw [use, Lease.use_of_isDue hdue]
    exact (fetch_grew w).1
  · refine ⟨[], ?_, Nat.zero_le 1, fun hne => absurd rfl hne⟩
    rw [use, Lease.use_of_not_isDue hdue]
    exact .refl w

theorem load_looking (w : World) : (load (Backed.looking shown w)).1 = (load w).1 := by
  have hquery : (query (Backed.looking shown w)).1 = (query w).1 := by
    have hscript : (Backed.looking shown w).metadata = w.metadata := rfl
    simp only [query, hscript]
    cases (w.metadata.next (.ok {})).1 <;> rfl
  unfold load
  rcases hw : query w with ⟨answer, v⟩
  rcases hl : query (Backed.looking shown w) with ⟨answer', v'⟩
  rw [hw, hl] at hquery
  obtain rfl : answer' = answer := hquery
  cases answer' with
  | error failure => rfl
  | ok fields =>
    dsimp only
    split <;> rfl

/-- Asking the metadata makes one call, unless keys that were found just now are due already. -/
theorem ask_calls (state : Backed Unit Lease) (w : World) :
    ∃ calls, w.Grew calls (Source.ask (.instanceProfile state) w).2.2 ∧
      (calls.length ≤ 1 ∨ calls.length = 2 ∧ state.held = none ∧
        ∃ lease, (load w).1 = .ok (some lease) ∧ lease.IsDue w.clock) := by
  have hlooking := load_looking w
  have hlook := ((Grew.refl w).record ..).trans (load_grew (Backed.looking shown w))
  have ha := Backed.ask_asked backing name shown state w
  simp only [Source.ask]
  generalize state.ask backing name shown w = result at ha
  cases ha with
  | failed _ hl | absent _ hl =>
    simp only [backing, Prod.mk.injEq] at hl
    obtain ⟨_, _, rfl⟩ := hl
    exact ⟨_, hlook, .inl (Nat.le_refl 1)⟩
  | @used lease _ _ v v' _ hh hu =>
    obtain ⟨own, hg, hone, hdue⟩ := use_calls lease v
    replace hu : use lease v = (_, _, v') := hu
    rw [hu] at hg
    cases hh with
    | held _ => exact ⟨own, hg, .inl hone⟩
    | found hnone hl =>
      simp only [backing, Prod.mk.injEq] at hl
      obtain ⟨hfound, _, rfl⟩ := hl
      refine ⟨_, hlook.trans hg, ?_⟩
      -- what the look has found is used at once, and that may be a second call
      cases own with
      | nil => exact .inl (Nat.le_refl 1)
      | cons call rest =>
        have hrest : rest = [] := List.eq_nil_of_length_eq_zero (by simpa using hone)
        subst hrest
        rw [hlooking] at hfound
        have hclock := hlook.clock
        have hnow := hdue (List.cons_ne_nil _ _)
        rw [hclock] at hnow
        exact .inr ⟨rfl, hnone, lease, hfound, hnow⟩

end InstanceProfile

namespace WebIdentity

theorem holding_logged {parameters : WebIdentity} {client : Client} {shown : String}
    {p : Backed WebIdentity AssumedRole} {w v : World} {r : AssumedRole}
    (hh : Backed.Holding (backing client) shown p w r parameters v) : w.Logged v := by
  cases hh with
  | held _ => exact .refl w
  | found _ hl =>
    simp only [backing, Prod.mk.injEq] at hl
    obtain ⟨_, _, rfl⟩ := hl
    exact (Logged.refl w).record ..

theorem ask_calls (state : Backed WebIdentity AssumedRole) (refresher : Refresher) (w : World) :
    ∃ calls, w.Grew calls (Source.ask (.webIdentity state refresher) w).2.2 ∧ calls.length ≤ 1 := by
  have ha := Backed.ask_asked (backing state.parameters.client) name state.parameters.shown state w
  simp only [Source.ask]
  generalize state.ask (backing state.parameters.client) name state.parameters.shown w =
    result at ha
  cases ha with
  | failed _ hl | absent _ hl =>
    simp only [backing, Prod.mk.injEq] at hl
    obtain ⟨_, _, rfl⟩ := hl
    exact ⟨[], (Grew.refl w).record .., Nat.zero_le 1⟩
  | @used role _ _ v v' _ hh hu =>
    obtain ⟨calls, hg, hrequests, _⟩ := role.use_requests state.parameters.client v
    replace hu : role.use (fun _ => .ok state.parameters.client) v = (_, _, v') := hu
    rw [hu] at hg
    refine ⟨calls, ((Grew.refl w).logged (holding_logged hh)).trans hg, ?_⟩
    rcases hrequests with rfl | ⟨_, _, rfl⟩
    · exact Nat.zero_le 1
    · exact Nat.le_refl 1

end WebIdentity

namespace Source

variable {s : Source} {outcomes : List (Except Failure Delivery)}

/-- Asking the source makes so many calls at most. -/
def MakesAtMost (s : Source) (w : World) (n : Nat) : Prop :=
  ∃ calls, w.Grew calls (s.ask w).2.2 ∧ calls.length ≤ n

theorem Follows.makesAtMost (hs : s.Follows outcomes) (w : World) :
    s.MakesAtMost w 1 ∨ s = ofInstance ∧ s.MakesAtMost w 2 ∧
      ∃ keys t e, (InstanceProfile.load w).1 = .ok (some ⟨some keys, some t⟩) ∧
        t.instant? = some e ∧ e - w.clock < renewalLimit := by
  cases s with
  | instanceProfile state =>
    obtain ⟨calls, hg, hone | ⟨htwo, hnone, lease, hl, hdue⟩⟩ := InstanceProfile.ask_calls state w
    · exact .inl ⟨calls, hg, hone⟩
    · obtain ⟨_, keys, t, _, _, rfl⟩ := InstanceProfile.load_brings (Prod.ext hl rfl)
      obtain ⟨e, he, hnear⟩ := Lease.isDue_iff.mp hdue
      obtain ⟨_, _⟩ := state
      subst hnone
      exact .inr ⟨rfl, ⟨calls, hg, Nat.le_of_eq htwo⟩, keys, t, e, hl, he, hnear⟩
  | webIdentity state refresher => exact .inl (WebIdentity.ask_calls state refresher w)
  | fixed _ | profile _ | standard _ | scripted _ _ => exact hs.elim

theorem renewal?_ask (h : s.renewal?.isSome) (w : World) : (s.ask w).2.1.renewal?.isSome := by
  obtain ⟨r, hr⟩ := Option.isSome_iff_exists.mp h
  rw [ask_of_renewal hr, renewal?_renewed hr]
  rfl

end Source

theorem Watched.renewal?_run {s : Watched} (h : s.source.renewal?.isSome) (turns : List Turn) :
    (s.run turns).source.renewal?.isSome := by
  induction turns generalizing s with
  | nil => exact h
  | cons t rest ih =>
    refine ih ?_
    unfold turn
    cases t.background with
    | false => exact Source.renewal?_ask h _
    | true =>
      rcases s.source.tick_source (t.change s.world) with ⟨hs, _⟩ | ⟨hs, _⟩
      · rw [← hs] at h
        exact h
      · have hasked := Source.renewal?_ask h (t.change s.world)
        rw [← hs] at hasked
        exact hasked

/-! ### Calls in a run -/

/-- A caller asks in this world. -/
def Turn.inWorld (v : World) : Turn := ⟨fun _ => v, false⟩

/-- Whatever turns a source that renews its keys has taken, asking it makes one call at most; only
a look at the metadata may be followed by a second call, if the keys that it finds are due. Once a
source has loaded, each of its turns makes one call at most. Keys that it has handed out it hands
out again in any turns in which they are not due, and then nothing changes but the surroundings. -/
theorem Source.ask_needed {s : Source} (hs : s.Renewing) (turns : List Turn) (w v : World) :
    let start := Watched.run ⟨s, w, []⟩ turns
    let next := start.turn (.inWorld v)
    (start.source.MakesAtMost v 1 ∨ start.source = ofInstance ∧ start.source.MakesAtMost v 2 ∧
      ∃ keys t e, (InstanceProfile.load v).1 = .ok (some ⟨some keys, some t⟩) ∧
        t.instant? = some e ∧ e - v.clock < renewalLimit) ∧
    (next.source.renewal?.isSome → ∀ more u, (next.run more).source.MakesAtMost u 1) ∧
    ∀ c, (start.source.ask v).1 = .ok c → ∃ t e, c.expiration = some t ∧ t.instant? = some e ∧
      ∀ more, (∀ u ∈ next.asked more, renewalLimit ≤ e - u.clock) →
        (next.run more).source = next.source ∧
          (next.run more).world = more.foldl (fun w turn => turn.change w) next.world ∧
          next.answers more = List.replicate more.length (.ok c) := by
  intro start next
  have hstart : start.source.Follows start.outcomes := Watched.run_follows hs.follows turns
  have hnext : next.source.Follows next.outcomes := Watched.turn_follows hstart _
  refine ⟨hstart.makesAtMost v, fun hloaded more u => ?_, fun c hc => ?_⟩
  · have hkept := Watched.renewal?_run hloaded more
    rcases (Watched.run_follows hnext more).makesAtMost u with hone | ⟨hnew, _⟩
    · exact hone
    · rw [hnew] at hkept
      cases hkept
  · obtain ⟨r, hr⟩ := holds_of_ask hstart
      (Prod.ext (y := (Except.ok c, next.source, next.world)) hc rfl)
    obtain ⟨_, _, _, hanswer⟩ := ask_follows hstart v
    obtain ⟨t, ht, _⟩ := hanswer c hc
    obtain ⟨e, he⟩ := hr.instant t ht
    exact ⟨t, e, ht, he, fun more hfar => Watched.run_idle hr ht he hfar⟩

/-- The metadata service is gone while the keys come to have 900 seconds left. -/
def Turn.outage : List Turn :=
  [⟨fun w => { w with metadata := [.error fun _ => .metadata "gone"] }, false⟩,
    ⟨(·.advance (2700 * Time.second)), false⟩, ⟨id, false⟩]

set_option maxRecDepth 20000 in
/-- One call serves a caller who asks four times. -/
theorem Source.ask_needed_outage :
    let next := (⟨ofInstance, .ofMetadata, []⟩ : Watched).turn (.inWorld .ofMetadata)
    ∃ c, (ofInstance.ask .ofMetadata).1 = .ok c ∧
      next.answers Turn.outage = [.ok c, .ok c, .ok c] ∧
      (next.run Turn.outage).world.calls = [.metadata] := by
  intro next
  have hc : (ofInstance.ask .ofMetadata).1 = .ok ⟨World.metadataKeys,
      some ⟨3600000000, some 0⟩, some InstanceProfile.name⟩ := by rfl
  obtain ⟨t, e, ht, he, hidle⟩ :=
    (ask_needed .metadata [] .ofMetadata .ofMetadata).2.2 _ hc
  cases ht
  cases he
  obtain ⟨_, hworld, hanswers⟩ := hidle Turn.outage (by decide)
  refine ⟨_, hc, hanswers, ?_⟩
  have hcalls : (ofInstance.ask .ofMetadata).2.2.calls = [.metadata] := by rfl
  exact (congrArg World.calls hworld).trans hcalls

end CloudCredentials
