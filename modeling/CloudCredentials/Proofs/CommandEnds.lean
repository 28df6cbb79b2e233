import CloudCredentials.Proofs.SelectionFaults

/-!
# How commands end

A command ends cleanly when it reports an output, or a complaint about a failure that it expects.
A description fails to do so when the settings or the selection break. A validation can break in the
stages after that too: when the provider is asked, when a session holds and uses the keys, and when
the service answers the request for the account. For each stage, the conditions under which it ends
in a failure that validation does not expect; together they decide whether a command ends cleanly.
-/

namespace CloudCredentials

open CommandLine

variable {c : Command}

/-! ### Asking the provider -/

/-- A failure that is reported and is still not one of a provider was none of the SDK or the
system. -/
theorem Backed.unwrapped_of_reported {f g failure : Failure} (hg : g.isCredentials = true)
    (h : (if f.isWrapped then g else f) = failure) (hf : failure.isCredentials = false) :
    failure.isWrapped = false := by
  cases hw : f.isWrapped with
  | true =>
    rw [hw, if_pos rfl] at h
    rw [← h, hg] at hf
    cases hf
  | false =>
    rw [hw, if_neg Bool.false_ne_true] at h
    rw [← h, hw]

theorem Source.ask_unwrapped {s : Source} {w : World} (h : s.IsGenuine w) {failure : Failure}
    (ha : (s.ask w).1 = .error failure) (hf : failure.isCredentials = false) :
    failure.isWrapped = false := by
  have backed {σ η : Type} {b : Backing σ η} {name shown : String} {p : Backed σ η}
      (ha : (p.ask b name shown w).1 = .error failure) : failure.isWrapped = false := by
    have hasked := Backed.ask_asked b name shown p w
    generalize p.ask b name shown w = r at ha hasked
    cases hasked with
    | failed _ _ => exact Backed.unwrapped_of_reported rfl (Except.error.inj ha) hf
    | absent _ _ =>
      cases ha
      cases hf
    | @used held held' _ _ _ answer _ _ =>
      cases answer with
      | error f => exact Backed.unwrapped_of_reported rfl (Except.error.inj ha) hf
      | ok keys =>
        simp only [Backed.answerOf, Backed.credentials] at ha
        split at ha
        · cases ha
        · cases ha
          cases hf
  cases s with
  | fixed keys => cases ha
  | scripted name answers => exact h.elim
  | _ => exact backed ha

/-- Asking the provider breaks its promise with something that validation does not expect. -/
def ResolveBreaks (p : Provider) (w : World) : Prop :=
  p.Breaks w ∧ ∃ failure, (p.resolve w).1 = .error failure ∧ failure.isOwn = false ∧
    failure.isValue = false

theorem Failure.isOwn_of_isCredentials {f : Failure} (h : f.isCredentials = true) :
    f.isOwn = true := by
  cases f <;> first | exact h | rfl

theorem Failure.isSystem_of_isMissingFile {f : Failure} (h : f.isMissingFile = true) :
    f.isSystem = true := by
  cases f <;> first | rfl | cases h

theorem ask_foreseen {s : Source} {w : World} (h : s.IsGenuine w) :
    Foreseen .validate (s.ask w).1 ↔ ¬ ResolveBreaks (.leaf s) w := by
  have hkeeps := Source.ask_keeps_iff h
  have expected (f : Failure) : Command.validate.expects f =
      (f.isOwn || f.isMissingFile || f.isValue || f.isSdk) := rfl
  have uncredited {f : Failure} (hown : f.isOwn = false) : ¬ f.isCredentials = true := fun hc => by
    rw [Failure.isOwn_of_isCredentials hc] at hown
    cases hown
  constructor
  · rintro hf ⟨hb, failure, ha, hown, hvalue⟩
    have hw := Source.ask_unwrapped h ha (Bool.eq_false_iff.mpr (uncredited hown))
    obtain ⟨hsdk, hsystem⟩ := Bool.or_eq_false_iff.mp hw
    have hmissing : failure.isMissingFile = false := Bool.eq_false_iff.mpr fun hm => by
      rw [Failure.isSystem_of_isMissingFile hm] at hsystem
      cases hsystem
    have hfailure := hf failure ha
    rw [expected, hown, hvalue, hsdk, hmissing] at hfailure
    cases hfailure
  · intro hn failure ha
    refine Classical.byContradiction fun he => hn ?_
    have he := Bool.eq_false_iff.mpr he
    rw [expected, Bool.or_eq_false_iff, Bool.or_eq_false_iff, Bool.or_eq_false_iff] at he
    obtain ⟨⟨⟨hown, _⟩, hvalue⟩, _⟩ := he
    have hbroken : ¬ KeepsContract (s.ask w).1 := by
      rw [ha]
      exact uncredited hown
    have hb : s.Breaks w := Classical.not_not.mp (mt hkeeps.mpr hbroken)
    exact ⟨hb, failure, ha, hown, hvalue⟩

theorem resolve_foreseen_iff {p : Provider} {w : World}
    (h : Provider.Each Source.IsGenuine (p, w)) :
    Foreseen .validate (p.resolve w).1 ↔ ¬ ResolveBreaks p w := by
  cases p with
  | leaf s => exact ask_foreseen (h s (List.mem_singleton_self s))
  | chain members =>
    refine iff_of_true ?_ fun hb => hb.1
    intro failure hf
    have hkeeps := Provider.chain_keeps h
    rw [hf] at hkeeps
    exact Command.expects_of_isOwn (Failure.isOwn_of_isCredentials hkeeps)

theorem Source.IsGenuine.at_world {s : Source} {w : World} (h : s.IsGenuine w) (v : World) :
    s.IsGenuine v := by
  cases s <;> exact h

theorem resolve_isGenuine {p : Provider} {w : World}
    (h : Provider.Each Source.IsGenuine (p, w)) :
    Provider.Each Source.IsGenuine (p.resolve w).2 :=
  Source.isGenuine_invariant.step (e := .resolve) trivial h

/-! ### Asking for the account -/

namespace Session

/-- The expiration of credentials, or the one that they are given without it, can be written and
read again, and has no offset or is past. -/
def IsLate (credentials : Credentials) (now : Int) : Prop :=
  ∃ t, (written (credentials.expiration.getD (.ofInstant (now + recheck)))).read = .ok t ∧
    ¬ t.IsAhead now

def DeliversLate (p : Provider) (w : World) : Prop :=
  After (p.resolve w) fun credentials x => IsLate credentials x.2.clock

/-- The condition under which the use of held keys ends in something that validation does not
expect: their expiry has no offset; or a renewal brings late keys; or asking the provider breaks,
in a renewal that cannot be passed over. -/
def HeldBreaks (p : Provider) (w : World) : SessionKeys → Prop
  | .fixed _ => False
  | .leased lease =>
    match lease.need w.clock with
    | .error _ => True
    | .ok .unneeded => False
    | .ok .advisory => DeliversLate p w
    | .ok .mandatory => ResolveBreaks p w ∨ DeliversLate p w

theorem written_foreseen (t : Time.Timestamp) : Foreseen c (written t).read := by
  dsimp only [written, ExpiryField.read, readTime]
  split
  · exact foreseen_ok _
  · exact foreseen_error.mpr (Command.expects_of_isValue rfl)

theorem keysOf_foreseen (credentials : Credentials) : Foreseen c (keysOf credentials) := by
  unfold keysOf
  split
  · exact foreseen_ok _
  · exact foreseen_map.mpr (written_foreseen _)

/-- What was brought decides, in both kinds of renewal. -/
theorem heldBreaks_of_delivery {p : Provider} {w : World} {lease : Lease} {need : Need}
    {credentials : Credentials} {x : Provider × World} (hn : lease.need w.clock = .ok need)
    (hu : need ≠ .unneeded) (hr : p.resolve w = (.ok credentials, x)) (hk : ¬ ResolveBreaks p w) :
    HeldBreaks p w (.leased lease) ↔ IsLate credentials x.2.clock := by
  have late : DeliversLate p w ↔ IsLate credentials x.2.clock := by
    rw [DeliversLate, hr, after_ok]
  cases need with
  | unneeded => exact absurd rfl hu
  | advisory => simp only [HeldBreaks, hn, late]
  | mandatory => simp only [HeldBreaks, hn, late, or_iff_right hk]

theorem fetch_error {σ : Type} {ask : Asking σ} {s s' : σ × World} {failure : Failure}
    (h : fetch ask s = (.error failure, s')) : ask s.1 s.2 = (.error failure, s') := by
  unfold fetch at h
  split at h
  · rename_i ha
    cases h
    exact ha
  · cases h

theorem fetch_ok {σ : Type} {ask : Asking σ} {s s' : σ × World} {d : Delivery}
    (h : fetch ask s = (.ok d, s')) :
    ∃ credentials, ask s.1 s.2 = (.ok credentials, s') ∧ d = deliveryOf credentials s'.2.clock := by
  unfold fetch at h
  split at h
  · cases h
  · rename_i credentials _ _ ha
    cases h
    exact ⟨credentials, ha, rfl⟩

/-- A delivery that is not taken over was late, or its expiry could not be written. -/
theorem refused_foreseen {lease l' : Lease} {credentials : Credentials} {now : Int}
    {failure : Failure}
    (h : Lease.Storing method lease (deliveryOf credentials now) now (.error failure, l')) :
    Command.validate.expects failure = true ↔ ¬ IsLate credentials now := by
  cases h with
  | incomplete hp => cases hp
  | unreadable hp hr =>
    cases hp
    have hw := written_foreseen (c := .validate)
      (credentials.expiration.getD (.ofInstant (now + recheck)))
    rw [hr] at hw
    refine iff_of_true (foreseen_error.mp hw) ?_
    rintro ⟨t, ht, _⟩
    rw [hr] at ht
    cases ht
  | faulty hp hr hf =>
    cases hp
    have hlate : ¬ Time.Timestamp.IsAhead _ now := fun ha => by
      rw [Lease.fault?_eq_none_iff.mpr ha] at hf
      cases hf
    refine iff_of_false ?_ fun hn => hn ⟨_, hr, hlate⟩
    rcases Lease.fault?_cases hf with ⟨_, rfl⟩ | ⟨_, _, _, rfl⟩
    · exact Bool.false_ne_true
    · exact Bool.false_ne_true

theorem useHeld_foreseen {p : Provider} {w : World} (h : Provider.Each Source.IsGenuine (p, w))
    (held : SessionKeys) (s : Session) :
    Foreseen .validate (useHeld Provider.resolve held s p w).1 ↔ ¬ HeldBreaks p w held := by
  cases held with
  | fixed keys => exact iff_of_true (foreseen_ok keys) id
  | leased lease =>
    have hresolve := resolve_foreseen_iff h
    have hu := Lease.use_using method (fun (s : Provider × World) => s.2.clock)
      (fetch Provider.resolve) lease (p, w)
    simp only [useHeld]
    generalize lease.use method (fun (s : Provider × World) => s.2.clock) (fetch Provider.resolve)
      (p, w) = result at hu
    have undelivered {failure : Failure} {x : Provider × World}
        (hr : p.resolve w = (.error failure, x)) : ¬ DeliversLate p w := by
      rintro ⟨_, _, hok, _⟩
      rw [hok] at hr
      cases hr
    have delivered {need : Need} {credentials : Credentials} {x : Provider × World}
        (hn : lease.need w.clock = .ok need) (hu : need ≠ .unneeded)
        (hr : p.resolve w = (.ok credentials, x)) :
        HeldBreaks p w (.leased lease) ↔ IsLate credentials x.2.clock := by
      rw [hr] at hresolve
      exact heldBreaks_of_delivery hn hu hr (hresolve.mp (foreseen_ok _))
    cases hu with
    | unclear hn =>
      obtain ⟨_, rfl⟩ := Lease.need_error.mp hn
      refine iff_of_false (not_foreseen rfl) fun hb => hb ?_
      simp only [HeldBreaks, hn]
    | kept hn =>
      obtain ⟨keys, hk, _⟩ := Lease.need_unneeded hn
      simp only [HeldBreaks, hn, Lease.handOut, hk, foreseen_ok, not_false_eq_true]
    | failed hn hf =>
      have hf := fetch_error hf
      rw [hf] at hresolve
      simp only [HeldBreaks, hn, or_iff_left (undelivered hf)]
      exact foreseen_error_congr.trans hresolve
    | passedOver hn hf =>
      obtain ⟨keys, _, _, hk, _⟩ := Lease.need_advisory hn
      simp only [HeldBreaks, hn, Lease.handOut, hk, foreseen_ok, undelivered (fetch_error hf),
        not_false_eq_true]
    | refused hn hu hf hs =>
      obtain ⟨credentials, hr, rfl⟩ := fetch_ok hf
      rw [foreseen_error, delivered hn hu hr]
      exact refused_foreseen hs
    | renewed hn hu hf hp ht ha =>
      obtain ⟨credentials, hr, rfl⟩ := fetch_ok hf
      rw [delivered hn hu hr]
      cases hp
      refine iff_of_true (foreseen_ok _) ?_
      rintro ⟨t, ht', hlate⟩
      rw [ht] at ht'
      cases ht'
      exact hlate ha

/-- The service raises something that validation does not expect, or its answer lacks a field. -/
def IdentityBreaks (w : World) : Prop :=
  match (w.identity.next (.ok {})).1 with
  | .error failure => Command.validate.expects (failure identityOperation) = false
  | .ok answer => ∃ name ∈ ["Account", "UserId", "Arn"], answer.fields.lookup name = none

section Fields

variable {kind : Failure → Bool} (hm : ∀ name, kind (.missingField name) = false)

include hm

theorem field_bind_failsOnly {α : Type} {fields : List (String × Datum)} {name : String}
    {k : Datum → Except Failure α} {P : Prop} (hk : ∀ d, FailsOnly kind (k d) ↔ P) :
    FailsOnly kind (InstanceProfile.field fields name >>= k) ↔
      fields.lookup name ≠ none ∧ P := by
  unfold InstanceProfile.field
  cases fields.lookup name with
  | none =>
    refine iff_of_false (fun h => ?_) fun h => h.1 rfl
    have hc := h (.missingField name) rfl
    rw [hm] at hc
    cases hc
  | some d => exact (hk d).trans (and_iff_right (Option.some_ne_none d)).symm

theorem accountOf_failsOnly (answer : IdentityAnswer) : FailsOnly kind (accountOf answer) ↔
    ¬ ∃ name ∈ ["Account", "UserId", "Arn"], answer.fields.lookup name = none := by
  refine (field_bind_failsOnly hm fun _ => field_bind_failsOnly hm fun _ =>
    field_bind_failsOnly hm fun _ => iff_of_true (failsOnly_ok _) trivial).trans ?_
  simp

end Fields

theorem requestIdentity_foreseen (client : Client) (w : World) :
    Foreseen .validate (requestIdentity client w).1 ↔ ¬ IdentityBreaks w := by
  unfold requestIdentity IdentityBreaks
  dsimp only
  cases (w.identity.next (.ok {})).1 with
  | error failure => rw [foreseen_error, Bool.not_eq_false]
  | ok answer => exact accountOf_failsOnly (fun _ => rfl) answer

theorem clientPlan_foreseen (s : Session) (w : World) :
    Foreseen .validate (clientPlan s w).1 ↔
      ¬ PlanEscapes Command.validate.expects s.view s.region w :=
  clientPlan_failsOnly s.view s.region w fun _ => rfl

theorem clientPlan_held (s : Session) (w : World) : (clientPlan s w).2.held = s.held := rfl

theorem load_foreseen {p : Provider} {w : World} (h : Provider.Each Source.IsGenuine (p, w))
    {s : Session} (hs : s.held = none) :
    Foreseen .validate (load Provider.resolve s p w).1 ↔ ¬ ResolveBreaks p w := by
  have hresolve := resolve_foreseen_iff h
  unfold load
  rw [hs]
  dsimp only
  rcases hr : p.resolve w with ⟨failure | credentials, p', v⟩
  · rw [hr] at hresolve
    exact foreseen_error_congr.trans hresolve
  · rw [hr] at hresolve
    have hk := keysOf_foreseen (c := .validate) credentials
    refine iff_of_true ?_ (hresolve.mp (foreseen_ok _))
    dsimp only
    cases hkeys : keysOf credentials with
    | error failure =>
      rw [hkeys] at hk
      exact foreseen_error_congr.mp hk
    | ok held => exact foreseen_ok held

theorem load_ok {σ : Type} {ask : Asking σ} {p p' : σ} {w v : World} {s s' : Session}
    {held : SessionKeys} (hs : s.held = none) (hl : load ask s p w = (.ok held, s', p', v)) :
    ∃ credentials, ask p w = (.ok credentials, p', v) ∧ keysOf credentials = .ok held := by
  unfold load at hl
  rw [hs] at hl
  dsimp only at hl
  rcases ha : ask p w with ⟨failure | credentials, q, u⟩
  · rw [ha] at hl
    cases hl
  · rw [ha] at hl
    dsimp only at hl
    split at hl
    · cases hl
    · rename_i hk
      cases hl
      exact ⟨credentials, rfl, hk⟩

theorem load_isGenuine {p p' : Provider} {w v : World} {s s' : Session} {held : SessionKeys}
    (h : Provider.Each Source.IsGenuine (p, w)) (hs : s.held = none)
    (hl : load Provider.resolve s p w = (.ok held, s', p', v)) :
    Provider.Each Source.IsGenuine (p', v) := by
  obtain ⟨credentials, ha, _⟩ := load_ok hs hl
  have hstep := resolve_isGenuine h
  rwa [ha] at hstep

/-- The condition under which a request for the account ends in something that validation does not
expect: the client cannot be begun; asking the provider breaks; the client has no endpoint; or else
using the keys breaks or the service does. -/
def AccountBreaks (s : Session) (p : Provider) (w : World) : Prop :=
  PlanEscapes Command.validate.expects s.view s.region w ∨ After (clientPlan s w) fun plan s =>
    ResolveBreaks p w ∨ After (load Provider.resolve s p w) fun held x =>
      EndpointEscapes Command.validate.expects plan x.2.2 ∨
        ∃ name, plan.endpoint x.2.2 = .ok name ∧ (HeldBreaks x.2.1 x.2.2 held ∨
          After (useHeld Provider.resolve held x.1 x.2.1 x.2.2) fun _ y => IdentityBreaks y.2.2)

theorem account_foreseen {p : Provider} {w : World} (h : Provider.Each Source.IsGenuine (p, w))
    {s : Session} (hs : s.held = none) :
    Foreseen .validate (s.account Provider.resolve p w).1 ↔ ¬ s.AccountBreaks p w := by
  have hheld := clientPlan_held s w
  refine foreseen_stage (clientPlan_foreseen s w) ?_ ?_
  · intro failure s₁ hc
    simp only [account, hc]
  intro plan s₁ hc
  rw [hc] at hheld
  refine foreseen_stage (load_foreseen h (hheld.trans hs)) ?_ ?_
  · intro failure x hl
    simp only [account, hc, hl]
  rintro held ⟨s₂, p₂, v⟩ hl
  have hgenuine := load_isGenuine h (hheld.trans hs) hl
  have hendpoint : Foreseen .validate (plan.endpoint v) ↔
      ¬ EndpointEscapes Command.validate.expects plan v := endpoint_failsOnly v plan
  cases he : plan.endpoint v with
  | error failure =>
    rw [he] at hendpoint
    have hend : (s.account Provider.resolve p w).1 = .error failure := by
      simp only [account, hc, hl, he]
    rw [hend]
    refine foreseen_error_congr.trans (hendpoint.trans (not_congr ?_))
    refine ⟨.inl, fun h => h.resolve_right ?_⟩
    rintro ⟨_, h, _⟩
    cases h
  | ok name =>
    rw [he] at hendpoint
    simp only [or_iff_right (hendpoint.mp (foreseen_ok name)), Except.ok.injEq, exists_eq_left']
    refine foreseen_stage (useHeld_foreseen hgenuine held s₂) ?_ ?_
    · intro failure x hu
      simp only [account, hc, hl, he, hu]
    · rintro keys ⟨s₃, p₃, u⟩ hu
      simp only [account, hc, hl, he, hu]
      exact requestIdentity_foreseen _ u

end Session

/-! ### Commands -/

namespace CommandLine

/-- The condition under which a session cannot be created, for a reason that validation does not
expect: its region is found, and the SDK's own session is refused. -/
def CreationBreaks (region : RegionProvider) (w : World) : Prop :=
  After (region.get w) fun _ v => OpeningEscapes Command.validate.expects {} v

theorem create_foreseen {region : RegionProvider} (hr : region.IsConfigured) (w : World) :
    Foreseen .validate (Session.create (some region) w).1 ↔ ¬ CreationBreaks region w := by
  have hregion := iff_of_true ((RegionProvider.get_foreseen (c := .validate) hr w).mpr
    fun h => h.1 rfl) not_false
  refine (foreseen_stage hregion ?_ ?_).trans (not_congr (or_iff_right not_false))
  · intro failure v hg
    simp only [Session.create, hg, Except.map]
  · intro name v hg
    refine Iff.trans ?_ (opened_failsOnly {} v)
    rcases ho : ActiveProfile.opened {} v with ⟨failure | opened, view⟩
    · simp only [Session.create, hg, Except.map, ho]
      exact foreseen_error_congr
    · simp only [Session.create, hg, Except.map, ho]
      exact iff_of_true (foreseen_ok _) (foreseen_ok opened)

theorem create_held {region : Option RegionProvider} {w v : World} {session : Session}
    (h : Session.create region w = (.ok session, v)) : session.held = none := by
  unfold Session.create at h
  dsimp only at h
  split at h
  · cases h
  · split at h
    · cases h
    · cases h
      rfl

/-- The condition under which a command ends in something that it does not expect: what is
configured breaks; or, in a validation, asking the provider breaks, the creation of a session does,
or asking for the account. -/
def Command.Breaks : Command → Option String → World → Prop
  | .configTemplate, _, _ => False
  | .describe, config, w => ConfiguredBreaks .describe config w
  | .validate, config, w => ConfiguredBreaks .validate config w ∨
    After (configured config w) fun made u => ResolveBreaks made.1 u ∨
      After (made.1.resolve u) fun _ asked => CreationBreaks made.2 asked.2 ∨
        After (Session.create (some made.2) asked.2) fun session v =>
          session.AccountBreaks asked.1 v

theorem accountOf_foreseen {provider : Provider} {region : RegionProvider} {w : World}
    (h : Provider.Each Source.IsGenuine (provider, w)) (hr : region.IsConfigured) :
    Foreseen .validate (accountOf provider region w).1 ↔
      ¬ (CreationBreaks region w ∨ After (Session.create (some region) w) fun session v =>
        session.AccountBreaks provider v) := by
  refine foreseen_stage (create_foreseen hr w) ?_ ?_
  · intro failure v hc
    simp only [accountOf, hc]
  · intro session v hc
    have hgenuine : Provider.Each Source.IsGenuine (provider, v) := fun s hs =>
      (h s hs).at_world v
    simp only [accountOf, hc]
    exact Session.account_foreseen hgenuine (create_held hc)

theorem describe_foreseen (config : Option String) (w : World) :
    Foreseen .describe (describe config w).1 ↔ ¬ Command.describe.Breaks config w := by
  have hconfigured := configured_foreseen (c := .describe) config w
  unfold describe Command.Breaks
  rcases hc : configured config w with ⟨failure | ⟨provider, region⟩, v⟩
  · rw [hc] at hconfigured
    exact foreseen_error_congr.trans hconfigured
  · rw [hc] at hconfigured
    exact iff_of_true (foreseen_ok _) (hconfigured.mp (foreseen_ok _))

theorem validate_foreseen (config : Option String) (w : World) :
    Foreseen .validate (validate config w).1 ↔ ¬ Command.validate.Breaks config w := by
  refine foreseen_stage (configured_foreseen config w) ?_ ?_
  · intro failure v hc
    simp only [validate, hc]
  rintro ⟨provider, region⟩ u hc
  obtain ⟨hregion, hgenuine⟩ := configured_isGenuine hc
  have hstep := resolve_isGenuine hgenuine
  refine foreseen_stage (resolve_foreseen_iff hgenuine) ?_ ?_
  · rintro failure ⟨p, v⟩ hr
    simp only [validate, hc, hr]
  · rintro credentials ⟨p, v⟩ hr
    rw [hr] at hstep
    simp only [validate, hc, hr]
    exact foreseen_map.trans (accountOf_foreseen hstep hregion)

/-! ### Reports -/

/-- A run ends cleanly: with an output and no complaint, or with a complaint and no output. Nothing
unexpected has happened. -/
inductive Report.IsClean (r : Report) : Prop
  | done (hu : r.unexpected = none) (he : r.exitCode = 0) (ho : r.output ≠ "")
    (hc : r.complaint = "") : IsClean r
  | failed (text : String) (hu : r.unexpected = none) (he : r.exitCode = 1) (ho : r.output = "")
    (hc : r.complaint = "Error: " ++ text ++ "\n") : IsClean r

theorem Report.IsClean.unexpected {r : Report} (h : r.IsClean) : r.unexpected = none := by
  cases h with
  | done hu | failed _ hu => exact hu

theorem complaintLine_eq (message : String) :
    complaintLine message = "Error: " ++ Text.withoutStyles message ++ "\n" := by
  unfold complaintLine
  rw [Text.withoutStyles_append (by decide)]

theorem conclude_isClean {c : Command} {result : Except Failure String} (debug : Bool)
    (h : ∀ output, result = .ok output → output ≠ "") :
    (conclude c.expects debug result).IsClean ↔ Foreseen c result := by
  cases result with
  | ok output => exact iff_of_true (.done rfl rfl (h output rfl) rfl) (foreseen_ok output)
  | error failure =>
    rw [foreseen_error]
    unfold conclude
    dsimp only
    cases he : c.expects failure with
    | true => exact iff_of_true (.failed _ rfl rfl rfl (complaintLine_eq _)) rfl
    | false =>
      exact iff_of_false (fun hr => nomatch hr.unexpected) Bool.false_ne_true

theorem describe_output {config : Option String} {w : World} {output : String}
    (h : (describe config w).1 = .ok output) : output ≠ "" := by
  have first (p : Provider) : ∃ line rest, p.describe = line :: rest := by
    cases p with
    | leaf s => exact ⟨_, _, rfl⟩
    | chain members => exact ⟨_, _, rfl⟩
  unfold describe at h
  split at h
  · cases h
  · rename_i provider _ _ _
    obtain ⟨line, rest, hd⟩ := first provider
    cases h
    rw [hd]
    simp

theorem validationText_ne_empty (credentials : Credentials) (account : Session.Account) :
    validationText credentials account ≠ "" := by
  unfold validationText
  simp only [String.append_assoc]
  rw [Text.withoutStyles_append (by decide)]
  simp

theorem validate_output {config : Option String} {w : World} {output : String}
    (h : (validate config w).1 = .ok output) : output ≠ "" := by
  rcases hc : configured config w with ⟨failure | ⟨provider, region⟩, u⟩
  · simp only [validate, hc] at h
    cases h
  rcases hr : provider.resolve u with ⟨failure | credentials, p, v⟩
  · simp only [validate, hc, hr] at h
    cases h
  rcases ha : accountOf p region v with ⟨failure | account, q, x⟩
  · simp only [validate, hc, hr, ha] at h
    cases h
  · simp only [validate, hc, hr, ha] at h
    rw [← Except.ok.inj h]
    exact validationText_ne_empty credentials account

/-- Federation is asked for, and no file has the active profile. -/
def unknownProfile : World where
  environment := [("AWS_AUTOCONFIG_CREDENTIALS__STS__ENABLED", "true"), ("AWS_PROFILE", "nope")]

end CommandLine

end CloudCredentials
