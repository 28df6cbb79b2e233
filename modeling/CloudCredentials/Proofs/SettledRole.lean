import CloudCredentials.Proofs.BackgroundRounds
import CloudCredentials.Proofs.Renewals
import CloudCredentials.Proofs.SingleDelivery

/-!
# The role is settled once

A source of federation takes what it was not given from the environment, anew each time it is asked,
until the environment has both a token file and a role. What it finds then is settled: from that
time on each request names this role, this session and the content of this file, which is read for
every request.
-/

namespace CloudCredentials

open World

/-! ### What the environment offers -/

namespace WebIdentity

variable {given : WebIdentity} {w : World}

/-- The token file at a moment, if it has a name. -/
def tokenFileIn (given : WebIdentity) (w : World) : Option String :=
  nonempty? (orVariable (given.tokenFile.map FileName.plain) w "AWS_WEB_IDENTITY_TOKEN_FILE")

def roleIn (given : WebIdentity) (w : World) : Option String :=
  nonempty? (orVariable given.role w "AWS_ROLE_ARN")

def sessionIn (given : WebIdentity) (w : World) : String :=
  AssumedRole.sessionName (orVariable given.session w "AWS_ROLE_SESSION_NAME") w.clock

/-- What is settled at a moment that has both a token file and a role. -/
def settled? (given : WebIdentity) (w : World) : Option AssumedRole :=
  (given.tokenFileIn w).bind fun tokenFile =>
    (given.roleIn w).map fun role => ⟨role, given.sessionIn w, tokenFile, {}, none⟩

theorem load_of_settled (hw : w.webIdentity = true) {role : AssumedRole}
    (h : given.settled? w = some role) : given.load w = .ok role := by
  obtain ⟨tokenFile, ht, h⟩ := Option.bind_eq_some_iff.mp h
  obtain ⟨name, hr, rfl⟩ := Option.map_eq_some_iff.mp h
  unfold tokenFileIn at ht
  unfold roleIn at hr
  simp only [load, hw, ht, hr, sessionIn]
  rfl

theorem load_of_no_tokenFile (hw : w.webIdentity = true) (h : given.tokenFileIn w = none) :
    given.load w = .error (.notFound name .noTokenFile) := by
  unfold tokenFileIn at h
  simp only [load, hw, h]
  rfl

theorem load_of_no_role (hw : w.webIdentity = true) (ht : given.tokenFileIn w ≠ none)
    (h : given.settled? w = none) : given.load w = .error (.misuse name .noRole) := by
  obtain ⟨tokenFile, ht⟩ := Option.ne_none_iff_exists'.mp ht
  have hr : given.roleIn w = none := by
    rw [settled?, ht, Option.bind_some, Option.map_eq_none_iff] at h
    exact h
  unfold tokenFileIn at ht
  unfold roleIn at hr
  simp only [load, hw, ht, hr]
  rfl

end WebIdentity

/-! ### Requests for a role -/

namespace AssumedRole

/-- The calls of one use of a role: none, or a request with the content that the token file has. -/
def Requests (r : AssumedRole) (client : Client) (w : World) (calls : List Call) : Prop :=
  calls = [] ∨ ∃ token, readToken w r.tokenFile = .ok token ∧
    calls = [.assumeRole r.role r.session token client]

theorem fetch_requests (r : AssumedRole) (client : Client) (w : World) :
    ∃ calls, w.Grew calls (r.fetch (fun _ => .ok client) (r.stored, w)).2.2 ∧
      r.Requests client w calls ∧
      (r.stored = none → (∃ token, readToken w r.tokenFile = .ok token) → calls ≠ []) := by
  have hf := r.fetch_fetching (fun _ => .ok client) (r.stored, w)
  generalize r.fetch (fun _ => .ok client) (r.stored, w) = result at hf
  generalize r.stored = stored at hf
  cases hf with
  | unclear _ | served _ => exact ⟨[], .refl w, .inl rfl, fun hno => by cases hno⟩
  | unasked _ hno =>
    refine ⟨[], .refl w, .inl rfl, fun _ hread => ?_⟩
    obtain ⟨token, ht⟩ := hread
    rcases hno with hno | hno
    · rw [hno] at ht
      cases ht
    · cases hno
  | failed _ ht hc hg _ | answered _ ht hc hg _ =>
    cases hc
    exact ⟨_, hg, .inr ⟨_, ht, rfl⟩, fun _ _ => List.cons_ne_nil _ _⟩

theorem use_requests (r : AssumedRole) (client : Client) (w : World) :
    ∃ calls, w.Grew calls (r.use (fun _ => .ok client) w).2.2 ∧ r.Requests client w calls ∧
      (r.lease.IsDue w.clock → r.stored = none →
        (∃ token, readToken w r.tokenFile = .ok token) → calls ≠ []) := by
  have hworld : (r.use (fun _ => .ok client) w).2.2 = (r.lease.use method Keeping.clock
      (r.fetch fun _ => .ok client) (r.stored, w)).2.2.2 := rfl
  rw [hworld]
  by_cases hdue : r.lease.IsDue (Keeping.clock (r.stored, w))
  · obtain ⟨calls, hg, hr, ht⟩ := r.fetch_requests client w
    rw [Lease.use_of_isDue hdue]
    exact ⟨calls, hg, hr, fun _ => ht⟩
  · rw [Lease.use_of_not_isDue hdue]
    exact ⟨[], .refl w, .inl rfl, fun h => absurd h hdue⟩

end AssumedRole

/-! ### Asking -/

namespace WebIdentity

variable {given : WebIdentity} {role : AssumedRole} {w : World}

theorem ask_unsettled (refresher : Refresher) (hw : w.webIdentity = true)
    (h : given.settled? w = none) :
    (Source.ask (.webIdentity ⟨given, none⟩ refresher) w).2 =
        (.webIdentity ⟨given, none⟩ refresher, Backed.looking given.shown w) ∧
      (given.tokenFileIn w = none → (Source.ask (.webIdentity ⟨given, none⟩ refresher) w).1 =
        .error (.notFound name .noTokenFile)) ∧
      (given.tokenFileIn w ≠ none → (Source.ask (.webIdentity ⟨given, none⟩ refresher) w).1 =
        .error (.misuse name .noRole)) := by
  have hlook : (Backed.looking given.shown w).webIdentity = true := hw
  have failed {failure : Failure} (hf : failure.isWrapped = false)
      (hl : given.load (Backed.looking given.shown w) = .error failure) :
      Source.ask (.webIdentity ⟨given, none⟩ refresher) w =
        (.error failure, .webIdentity ⟨given, none⟩ refresher, Backed.looking given.shown w) := by
    unfold Backed.looking at hl
    simp only [Source.ask, Backed.ask, Backed.hold, backing, hl, Except.map, Backed.reportLoading,
      hf]
    rfl
  by_cases ht : given.tokenFileIn w = none
  · rw [failed rfl (load_of_no_tokenFile hlook ht)]
    exact ⟨rfl, fun _ => rfl, fun hne => absurd ht hne⟩
  · rw [failed rfl (load_of_no_role hlook ht h)]
    exact ⟨rfl, fun hno => absurd hno ht, fun _ => rfl⟩

theorem ask_settling (refresher : Refresher) (hw : w.webIdentity = true)
    (h : given.settled? w = some role) :
    Source.ask (.webIdentity ⟨given, none⟩ refresher) w =
      Source.ask (.webIdentity ⟨given, some role⟩ refresher) (Backed.looking given.shown w) := by
  have hlook : (Backed.looking given.shown w).webIdentity = true := hw
  have hl := load_of_settled hlook h
  unfold Backed.looking at hl
  simp only [Source.ask, Backed.ask, Backed.hold, backing, hl, Except.map]
  rfl

theorem ask_settled (given : WebIdentity) (role : AssumedRole) (refresher : Refresher) (w : World) :
    (∃ lease stored, (Source.ask (.webIdentity ⟨given, some role⟩ refresher) w).2.1 =
        .webIdentity ⟨given, some { role with lease, stored }⟩ refresher) ∧
      ∃ calls, w.Grew calls (Source.ask (.webIdentity ⟨given, some role⟩ refresher) w).2.2 ∧
        role.Requests given.client w calls ∧ (role.lease.IsDue w.clock → role.stored = none →
          (∃ token, AssumedRole.readToken w role.tokenFile = .ok token) → calls ≠ []) := by
  rw [Source.ask_of_renewal (s := .webIdentity ⟨given, some role⟩ refresher) rfl w]
  exact ⟨⟨_, _, rfl⟩, role.use_requests given.client w⟩

/-! ### Runs -/

/-- A source after it was asked in some worlds: none of them had all that it needs, or the first one
that had has settled the role. -/
inductive Settled (given : WebIdentity) (asked : List World) : Backed WebIdentity AssumedRole → Prop
  | searching (h : asked.findSome? given.settled? = none) : Settled given asked ⟨given, none⟩
  | settled {role : AssumedRole} (h : asked.findSome? given.settled? = some role) (lease : Lease)
    (stored : Option RoleReply) : Settled given asked ⟨given, some { role with lease, stored }⟩

variable {asked : List World} {state : Backed WebIdentity AssumedRole}

/-- What a source that was asked in some worlds does when it is asked in one more. -/
structure Asking (given : WebIdentity) (refresher : Refresher) (asked : List World) (w : World)
    (answer : Except Failure Credentials) (s : Source) (v : World) : Prop where
  settles : ∃ state, s = .webIdentity state refresher ∧ Settled given (asked ++ [w]) state
  unsettled : (asked ++ [w]).findSome? given.settled? = none → w.Grew [] v ∧
    (given.tokenFileIn w = none → answer = .error (.notFound name .noTokenFile)) ∧
    (given.tokenFileIn w ≠ none → answer = .error (.misuse name .noRole))
  settled : ∀ role, (asked ++ [w]).findSome? given.settled? = some role →
    ∃ calls, w.Grew calls v ∧ role.Requests given.client w calls ∧
      (asked.findSome? given.settled? = none →
        (∃ token, AssumedRole.readToken w role.tokenFile = .ok token) → calls ≠ [])

theorem Settled.ask (h : Settled given asked state) (refresher : Refresher)
    (hw : w.webIdentity = true) :
    Asking given refresher asked w (Source.ask (.webIdentity state refresher) w).1
      (Source.ask (.webIdentity state refresher) w).2.1
      (Source.ask (.webIdentity state refresher) w).2.2 := by
  have hlast : (asked ++ [w]).findSome? given.settled? =
      (asked.findSome? given.settled?).or (given.settled? w) := by
    rw [List.findSome?_append, List.findSome?_singleton]
  cases h with
  | searching hnone =>
    rw [hnone, Option.none_or] at hlast
    cases hsettled : given.settled? w with
    | none =>
      obtain ⟨hs, hfile, hrole⟩ := ask_unsettled refresher hw hsettled
      rw [hsettled] at hlast
      rw [hs]
      refine ⟨⟨_, rfl, .searching hlast⟩, fun _ => ⟨(Grew.refl w).record .., hfile, hrole⟩, ?_⟩
      intro role hrole
      rw [hlast] at hrole
      cases hrole
    | some role =>
      rw [hsettled] at hlast
      obtain ⟨⟨lease, stored, hs⟩, calls, hg, hrequests, hmade⟩ :=
        ask_settled given role refresher (Backed.looking given.shown w)
      rw [← ask_settling refresher hw hsettled] at hs hg
      refine ⟨⟨_, hs, .settled hlast lease stored⟩, fun hno => ?_, fun found hfound => ?_⟩
      · rw [hlast] at hno
        cases hno
      · rw [hlast] at hfound
        cases hfound
        -- a role that was settled just now has no keys and no reply, so the first use requests them
        have hnew : role.lease.IsDue (Backed.looking given.shown w).clock ∧ role.stored = none := by
          obtain ⟨_, _, h⟩ := Option.bind_eq_some_iff.mp hsettled
          obtain ⟨_, _, rfl⟩ := Option.map_eq_some_iff.mp h
          exact ⟨Lease.isDue_of_mandatory rfl, rfl⟩
        exact ⟨calls, ((Grew.refl w).record ..).trans hg, hrequests, fun _ => hmade hnew.1 hnew.2⟩
  | @settled role hrole lease stored =>
    rw [hrole, Option.some_or] at hlast
    obtain ⟨⟨lease', stored', hs⟩, calls, hg, hrequests, _⟩ :=
      ask_settled given { role with lease, stored } refresher w
    refine ⟨⟨_, hs, .settled hlast lease' stored'⟩, fun hno => ?_, fun found hfound => ?_⟩
    · rw [hlast] at hno
      cases hno
    · rw [hlast] at hfound
      cases hfound
      refine ⟨calls, hg, hrequests, fun hno => ?_⟩
      rw [hrole] at hno
      cases hno

end WebIdentity

namespace Watched

variable {s : Watched} {state : Backed WebIdentity AssumedRole} {refresher : Refresher}

theorem turn_webIdentity (hs : s.source = .webIdentity state refresher) (t : Turn) :
    (s.turn t).source = (s.source.ask (t.change s.world)).2.1 ∧
      (s.source.ask (t.change s.world)).2.2.Logged (s.turn t).world := by
  unfold turn
  cases t.background with
  | false => exact ⟨rfl, .refl _⟩
  | true =>
    obtain ⟨hsource, hlogged, _⟩ := Background.tick_leaves Source.ask s.source (t.change s.world)
    rw [hs] at hsource hlogged ⊢
    exact ⟨hsource, hlogged⟩

theorem run_settled {given : WebIdentity} {asked : List World}
    (hs : s.source = .webIdentity state refresher) (h : WebIdentity.Settled given asked state)
    {turns : List Turn} (hw : ∀ u ∈ s.asked turns, u.webIdentity = true) :
    ∃ state', (s.run turns).source = .webIdentity state' refresher ∧
      WebIdentity.Settled given (asked ++ s.asked turns) state' := by
  induction turns generalizing s state asked with
  | nil => exact ⟨state, hs, (List.append_nil asked).symm ▸ h⟩
  | cons t rest ih =>
    have hfirst := hw _ List.mem_cons_self
    obtain ⟨⟨state', hstate, hsettled⟩, _, _⟩ := h.ask refresher hfirst
    obtain ⟨hsource, _⟩ := turn_webIdentity hs t
    rw [hs, hstate] at hsource
    obtain ⟨last, hlast, hrun⟩ := ih hsource hsettled fun u hu => hw u (List.mem_cons_of_mem _ hu)
    rw [List.append_assoc] at hrun
    exact ⟨last, hlast, hrun⟩

end Watched

/-- While web identities are supported, a source of federation fails without a request in each turn
until one of its turns finds both a token file and a role, by what it was given or by the
environment of that moment. What this turn finds is settled: in it and in every later one, each
request names this role and this session, with the content that this file has when the request is
made. The turn that settles the role makes a request if the file can be read. -/
theorem Source.turn_settled (given : WebIdentity) (interval : Int) (w : World) (turns : List Turn)
    (t : Turn) (hw : ∀ u ∈ Watched.asked ⟨ofWebIdentity given interval, w, []⟩ (turns ++ [t]),
      u.webIdentity = true) :
    let start : Watched := ⟨ofWebIdentity given interval, w, []⟩
    let s := start.run turns
    let u := t.change s.world
    let settled := (start.asked (turns ++ [t])).findSome? given.settled?
    (settled = none → u.Grew [] (s.turn t).world ∧
      (given.tokenFileIn u = none →
        (s.source.ask u).1 = .error (.notFound WebIdentity.name .noTokenFile)) ∧
      (given.tokenFileIn u ≠ none →
        (s.source.ask u).1 = .error (.misuse WebIdentity.name .noRole))) ∧
    ∀ role, settled = some role → ∃ calls, u.Grew calls (s.turn t).world ∧
      (calls = [] ∨ ∃ token, AssumedRole.readToken u role.tokenFile = .ok token ∧
        calls = [.assumeRole role.role role.session token given.client]) ∧
      ((start.asked turns).findSome? given.settled? = none →
        (∃ token, AssumedRole.readToken u role.tokenFile = .ok token) → calls ≠ []) := by
  intro start s u settled
  rw [Watched.asked_concat] at hw
  have hbefore : ∀ x ∈ start.asked turns, x.webIdentity = true :=
    fun x hx => hw x (List.mem_append_left _ hx)
  have hnow : u.webIdentity = true := hw u (List.mem_append_right _ (List.mem_singleton_self u))
  have hstart : WebIdentity.Settled given [] ⟨given, none⟩ := .searching rfl
  obtain ⟨state, hs, hsettled⟩ := Watched.run_settled (s := start) rfl hstart hbefore
  obtain ⟨_, hlogged⟩ := Watched.turn_webIdentity hs t
  have hasking := hsettled.ask (.start given.asyncUpdate interval) hnow
  rw [← hs] at hasking
  have hchosen : settled = ([] ++ start.asked turns ++ [u]).findSome? given.settled? := by
    rw [List.nil_append, ← Watched.asked_concat]
  rw [hchosen]
  refine ⟨fun hnone => ?_, fun role hrole => ?_⟩
  · obtain ⟨hg, hfile, hrole⟩ := hasking.unsettled hnone
    exact ⟨hg.logged hlogged, hfile, hrole⟩
  · obtain ⟨calls, hg, hrequests, hmade⟩ := hasking.settled role hrole
    exact ⟨calls, hg.logged hlogged, hrequests, hmade⟩

def WebIdentity.ambient : WebIdentity := { client := ⟨"us-east-1", .unsigned⟩ }

def Turn.toEnvironment (environment : Environment) : Turn :=
  ⟨fun w => { w with environment }, false⟩

/-- The environment has a token file first, then a role too, and then it has changed. -/
def Turn.settling : List Turn :=
  [.toEnvironment [("AWS_WEB_IDENTITY_TOKEN_FILE", "token")],
    .toEnvironment [("AWS_WEB_IDENTITY_TOKEN_FILE", "token"), ("AWS_ROLE_ARN", "role/first")]]

def Turn.renewing : Turn where
  change w := { w.advance (3000 * Time.second) with
    environment := [("AWS_WEB_IDENTITY_TOKEN_FILE", "other"), ("AWS_ROLE_ARN", "role/second")]
    files := [(["token"], .file [66])] }
  background := true

/-- A background turn renews the keys of the role that was settled, with the token of now. -/
theorem Source.turn_settled_renewing :
    let s := Watched.run ⟨ofWebIdentity .ambient 60, { files := [(["token"], .file [65])] }, []⟩
      Turn.settling
    let u := Turn.renewing.change s.world
    s.world.calls = [.assumeRole "role/first" "botocore-session-0" "A" ⟨"us-east-1", .unsigned⟩] ∧
      (s.turn Turn.renewing).world.calls = u.calls ++
        [.assumeRole "role/first" "botocore-session-0" "B" ⟨"us-east-1", .unsigned⟩] := by
  intro s u
  have hw : ∀ x ∈ Watched.asked ⟨ofWebIdentity .ambient 60, { files := [(["token"], .file [65])] },
      []⟩ (Turn.settling ++ [Turn.renewing]), x.webIdentity = true := by decide
  obtain ⟨calls, hg, hcalls, _⟩ :=
    (turn_settled .ambient 60 _ Turn.settling Turn.renewing hw).2 _ rfl
  have hmade : (s.turn Turn.renewing).world.calls.length = 2 := by decide
  refine ⟨by decide, ?_⟩
  rcases hcalls with rfl | ⟨token, ht, rfl⟩
  · rw [hg.calls] at hmade
    exact absurd hmade (by decide)
  · have htoken : AssumedRole.readToken u "token" = .ok "B" := rfl
    cases ht.symm.trans htoken
    exact hg.calls

end CloudCredentials
