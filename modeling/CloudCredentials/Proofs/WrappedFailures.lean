import CloudCredentials.Proofs.Looks

/-!
# Failures with a cause and failures without

A source that loads once reports what the SDK and the system raise under its own name, with the
failure as the cause, and is left as it was: empty when the look has failed, with the keys that it
held when the renewal has. A failure without a cause says that there is nothing to be had: the
source is absent, is not set up, or has keys that lack a part.
-/

namespace CloudCredentials

open World

/-- The failures of a source that is not set up: no token file, no role, no such profile file. -/
def Failure.IsMisconfiguration (name : String) (f : Failure) : Prop :=
  f = .notFound name .noTokenFile ∨ f = .misuse name .noRole ∨
    ∃ path, f = .misuse name (.noProfileFile path)

/-! ### Loads and fetches -/

namespace InstanceProfile

theorem load_traced (own : Failure → Prop) (w : World) : Traced own w (load w).1 (load w).2 := by
  refine .of_call (load_grew w) (fetch_grew w).2 (fun found h => ?_) fun f h hf => ?_
  · unfold load at h
    unfold fetch
    rcases hq : query w with ⟨failure | fields, v⟩
    · simp only [hq] at h
      cases h
    · exact ⟨_, rfl⟩
  · unfold load at h
    unfold fetch
    rcases hq : query w with ⟨failure | fields, v⟩
    · simp only [hq] at h
      cases h
      rfl
    · have hforeign : FailsOnly Failure.isForeign
          (if fields.isEmpty then (.ok none, v) else ((leaseOf fields).map some, v)).1 := by
        split
        · exact failsOnly_ok _
        · exact (failsOnly_map _).mpr (leaseOf_isForeign fields)
      simp only [hq] at h
      rw [hforeign f h] at hf
      cases hf

end InstanceProfile

namespace AssumedRole

theorem readToken_isForeign (w : World) (file : String) :
    FailsOnly Failure.isForeign (readToken w file) := by
  unfold readToken
  split
  · exact (failsOnly_error _).mpr rfl
  · split
    · exact (failsOnly_error _).mpr rfl
    · split
      · exact (failsOnly_error _).mpr rfl
      · exact failsOnly_ok _

theorem fetch_traced (own : Failure → Prop) (r : AssumedRole)
    {client : World → Except Failure Client} {w : World}
    (hc : FailsOnly Failure.isForeign (client w)) (stored : Option RoleReply) :
    Traced own w (r.fetch client (stored, w)).1 (r.fetch client (stored, w)).2.2 := by
  have unpack (reply : RoleReply) : FailsOnly Failure.isForeign reply.unpack := by
    intro failure h
    obtain ⟨_, _, rfl⟩ := RoleReply.unpack_error h
    rfl
  have hf := r.fetch_fetching client (stored, w)
  generalize r.fetch client (stored, w) = result at hf
  cases hf with
  | unclear hs =>
    refine .of_foreign (.refl w) ((failsOnly_error _).mpr ?_)
    rcases RoleReply.serves_error hs with ⟨_, rfl⟩ | ⟨_, rfl⟩ | ⟨_, rfl⟩
    all_goals rfl
  | served _ => exact .of_foreign (.refl w) (unpack _)
  | unasked _ hno =>
    refine .of_foreign (.refl w) ?_
    rcases hno with hno | hno
    · exact (readToken_isForeign w r.tokenFile).passed hno
    · exact hc.passed hno
  | failed _ _ _ hg hd =>
    refine .of_call hg hd (fun _ h => ?_) fun _ h _ => h
    cases h
  | answered _ _ _ hg hd =>
    refine .of_call hg hd (fun _ _ => ⟨_, rfl⟩) fun f h hf => ?_
    rw [unpack _ f h] at hf
    cases hf

end AssumedRole

theorem NamedProfile.load_traced (p : NamedProfile) (w : World) :
    Traced (Failure.IsMisconfiguration name) w (p.load w).1 (p.load w).2 := by
  refine .of_logged (p.load_logged w) fun f h hf => .inr (.inr ?_)
  have foreign {P : Prop} {g : Failure} (hg : g.isForeign = true) (he : g = f) : P := by
    rw [← he, hg] at hf
    cases hf
  unfold load at h
  cases hp : p.path with
  | some path =>
    simp only [hp, loadFrom] at h
    split at h
    · split at h
      · rename_i he
        exact foreign ((ProfileFile.credentialsFileKeys_isWrapped _ _ _).foreign _ he)
          (Except.error.inj h)
      · cases h
      · cases h
    · exact ⟨path.text, (Except.error.inj h).symm⟩
  | none =>
    simp only [hp, loadDefault] at h
    split at h
    · split at h
      · rename_i he
        exact foreign ((ProfileFile.credentialsFileKeys_isWrapped _ _ _).foreign _ he)
          (Except.error.inj h)
      · cases h
      · split at h
        · rename_i he
          exact foreign ((ProfileFile.configFileKeys_isWrapped _ _ _).foreign _ he)
            (Except.error.inj h)
        · cases h
        · cases h
    · exact foreign rfl (Except.error.inj h)

theorem WebIdentity.load_traced (p : WebIdentity) (w : World) :
    Traced (Failure.IsMisconfiguration name) w (p.load w) w := by
  refine .of_logged (.refl w) fun f h hf => ?_
  unfold load at h
  split at h
  · cases h
    cases hf
  · split at h
    · exact .inl (Except.error.inj h).symm
    · split at h
      · exact .inr (.inl (Except.error.inj h).symm)
      · cases h

namespace Standard

theorem lookInPlaces_traced (own : Failure → Prop) (a : ActiveProfile) (w : World) :
    Traced own w (lookInPlaces a w).1 (lookInPlaces a w).2.2 := by
  have ho := a.options_isForeign w
  unfold lookInPlaces
  rcases hx : a.options w with ⟨failure | options, b⟩
  · exact .of_foreign (.refl w) (ho.passed (congrArg Prod.fst hx))
  · dsimp only
    split
    · rename_i he
      exact .of_foreign (.refl w) ((inPlaces_isForeign _ _ _).passed he)
    · exact .of_foreign (.refl w) (failsOnly_ok _)
    · exact (InstanceProfile.load_traced own w).map _

theorem load_traced (own : Failure → Prop) (a : ActiveProfile) (w : World) :
    Traced own w (load a w).1 (load a w).2.2 := by
  have hg : w.Grew [.look] (w.answered .look) := .answered w .look
  rcases load_cases a w with ⟨hn, hl⟩ | ⟨look, hs, hl⟩
  · rw [hl]
    exact (lookInPlaces_traced own (view a) _).after_silent hg (by simp [deliveries, delivery?, hn])
  · rw [hl]
    cases look with
    | error failure =>
      have hd : w.deliveries [.look] = [.error failure] := by simp [deliveries, delivery?, hs]
      refine .of_call hg hd (fun _ h => by cases h) fun f h _ => ?_
      cases h
      rfl
    | ok found =>
      have hd : w.deliveries [.look] = [] := by simp [deliveries, delivery?, hs]
      exact (Traced.of_foreign (.refl _) (failsOnly_ok _)).after_silent hg hd

end Standard

namespace Source

theorem look_traced (s : Source) (w : World) :
    Traced (Failure.IsMisconfiguration s.name) w (s.look w).1 (s.look w).2.2 := by
  cases s with
  | fixed keys => exact .of_foreign (.refl w) (failsOnly_ok true)
  | scripted name answers => exact .of_foreign (.refl w) (failsOnly_ok true)
  | instanceProfile state =>
    exact Backed.look_traced (b := InstanceProfile.backing) (p := state)
      (InstanceProfile.load_traced _)
  | profile state =>
    exact Backed.look_traced (b := NamedProfile.backing) (p := state) state.parameters.load_traced
  | webIdentity state refresher =>
    exact Backed.look_traced (b := WebIdentity.backing state.parameters.client) (p := state)
      fun w => (state.parameters.load_traced w).map some
  | standard state =>
    exact Backed.look_traced (b := Standard.backing) (p := state)
      (Standard.load_traced _ state.parameters)

theorem fetched_traced {s : Source} {r : Renewal} (h : s.renewal? = some r) (w : World) :
    Traced (fun _ => False) w (r.fetched w).1 (r.fetched w).2.2 := by
  cases renewable_of_renewal h with
  | plain _ hf =>
    rcases hf w with ⟨hw, hforeign⟩ | ⟨call, hg, hd⟩
    · exact .of_foreign (hw.symm ▸ .refl w) hforeign
    · exact .of_call hg hd (fun d hd => ⟨d, hd⟩) fun _ he _ => he
  | @role assumed client _ hc => exact assumed.fetch_traced _ (hc w) assumed.stored

end Source

/-! ### Uses -/

namespace Lease

variable {method : String} {l l' : Lease} {keys : Keys}

theorem use_failure {σ : Type} {clock : σ → Int} {fetch : σ → Except Failure Delivery × σ}
    {s s' : σ} {failure : Failure} (h : l.use method clock fetch s = (.error failure, l', s'))
    (hf : failure.isForeign = false) : fetch s = (.error failure, s') := by
  rcases use_error h with ⟨hn, _⟩ | ⟨_, hfetch, _⟩ | ⟨_, _, _, _, _, hs⟩
  · obtain ⟨_, rfl⟩ := need_error.mp hn
    cases hf
  · exact hfetch
  · rw [hs.isForeign] at hf
    cases hf

theorem advisory_of_use {σ : Type} {clock : σ → Int} {fetch : σ → Except Failure Delivery × σ}
    {s s' : σ} {failure : Failure} (h : l.use method clock fetch s = (.ok keys, l', s'))
    (hdue : l.IsDue (clock s)) (hf : (fetch s).1 = .error failure) :
    l.need (clock s) = .ok .advisory := by
  have hu := use_using method clock fetch l s
  rw [h] at hu
  generalize hr : (Except.ok keys, l', s') = r at hu
  cases hu with
  | unclear _ | failed _ _ | refused _ _ _ _ => cases hr
  | kept hn =>
    obtain ⟨need, hn', hneed⟩ := hdue
    rw [hn] at hn'
    cases hn'
    exact absurd rfl hneed
  | passedOver hn _ => exact hn
  | renewed _ _ hf' _ _ _ =>
    rw [hf'] at hf
    cases hf

end Lease

/-! ### Asking -/

namespace Source

variable {s : Source} {r : Renewal} {w : World} {failure : Failure}

theorem keys?_renewed (h : s.renewal? = some r) (r' : Renewal) :
    (s.renewed r').keys? = r'.lease.keys := by
  cases s with
  | instanceProfile state =>
    obtain ⟨_, _ | held⟩ := state
    · cases h
    · rfl
  | webIdentity state refresher =>
    obtain ⟨_, _ | role⟩ := state
    · cases h
    · rfl
  | standard state =>
    obtain ⟨_, _ | found⟩ := state
    · cases h
    · cases found with
      | fixed keys => cases h
      | environment _ | role _ _ | machine _ | other _ _ => rfl
  | fixed _ | profile _ | scripted _ _ => cases h

theorem ask_of_not_renewal (hs : s.IsBacked) (hl : s.isLoaded = true) (hr : s.renewal? = none)
    (w : World) :
    ∃ keys, s.keys? = some keys ∧ s.ask w = (Backed.credentials s.name keys none, s, w) := by
  cases s with
  | instanceProfile state =>
    obtain ⟨_, _ | held⟩ := state
    · cases hl
    · cases hr
  | profile state =>
    obtain ⟨_, _ | keys⟩ := state
    · cases hl
    · exact ⟨keys, rfl, rfl⟩
  | webIdentity state refresher =>
    obtain ⟨_, _ | role⟩ := state
    · cases hl
    · cases hr
  | standard state =>
    obtain ⟨_, _ | found⟩ := state
    · cases hl
    · cases found with
      | fixed keys => exact ⟨keys, rfl, rfl⟩
      | environment _ | role _ _ | machine _ | other _ _ => cases hr
  | fixed _ | scripted _ _ => exact hs.elim

/-- A failure of the SDK or of the system leaves the reply that is kept as it was. -/
theorem stored_of_isWrapped (h : s.renewal? = some r) (hu : (r.use w).1 = .error failure)
    (hf : failure.isWrapped = true) : (r.fetched w).2.1 = r.stored := by
  cases renewable_of_renewal h with
  | plain _ _ => rfl
  | @role assumed client _ _ =>
    rcases hused : (Renewal.ofRole assumed client).use w with ⟨answer, lease, kept⟩
    rw [hused] at hu
    obtain rfl : answer = .error failure := hu
    rcases Lease.use_error hused with ⟨hn, _⟩ | ⟨_, hfetch, _⟩ | ⟨_, d, _, _, hfetch, hs⟩
    · obtain ⟨_, rfl⟩ := Lease.need_error.mp hn
      cases hf
    · exact assumed.fetch_stored_of_isWrapped client (congrArg Prod.fst hfetch) hf
    · have hcomplete : d.missing = [] := assumed.fetch_complete client (congrArg Prod.fst hfetch)
      cases hs with
      | incomplete hp => exact absurd hcomplete ((Delivery.parts?_eq_none_iff d).mp hp)
      | unreadable _ hread =>
        rw [Lease.not_isWrapped_of_read hread] at hf
        cases hf
      | faulty _ _ hfault =>
        rw [Lease.not_isWrapped_of_fault hfault] at hf
        cases hf

/-- A failure of the SDK or of the system that a renewal ends in is reported as the cause, and the
source still holds what it held; when it is asked again it fetches again. -/
theorem ask_of_use_error (h : s.renewal? = some r) (hu : (r.use w).1 = .error failure)
    (hf : failure.isWrapped = true) :
    s.ask w = (.error (.renewing s.name failure), s, (r.fetched w).2.2) ∧
      ∀ u, w.clock ≤ u.clock → (s.ask u).2.2 = (r.fetched u).2.2 := by
  obtain ⟨hl, hdue⟩ := Lease.use_of_isWrapped (Prod.ext hu rfl) hf
  have hkept : (r.use w).2.2 = (r.fetched w).2 := Lease.use_of_isDue hdue
  constructor
  · have hused : r.used w = r := by
      rw [Renewal.used, show (r.use w).2.1 = r.lease from hl, hkept, stored_of_isWrapped h hu hf]
    rw [ask_of_renewal h, hu, hused, renewed_self h, hkept]
    simp only [Renewal.answer, Backed.reportRenewing, hf, if_true]
  · intro u hle
    rw [ask_of_renewal h]
    exact congrArg Prod.snd (Lease.use_of_isDue (hdue.later hle))

/-- A failure without a cause that a renewal ends in was raised by a service, or says that the keys
lack a part; a fetch that has failed then was one ahead of time. -/
theorem ask_of_renewal_without_cause (hr : s.renewal? = some r)
    (h : (s.ask w).1 = .error failure) (hf : failure.isForeign = false)
    (hc : failure.cause? = none) :
    .error failure ∈ w.delivered (s.ask w).2.2 ∨ failure = .notFound s.name .incomplete ∧
      ∃ keys, (s.ask w).2.1.keys? = some keys ∧ keys.isComplete = false ∧
        ∀ f, r.lease.IsDue w.clock → (r.fetched w).1 = .error f →
          r.lease.need w.clock = .ok .advisory := by
  rw [ask_of_renewal hr] at h ⊢
  unfold Renewal.used
  rcases hu : r.use w with ⟨answer, lease, stored, v⟩
  rw [hu] at h
  cases answer with
  | error f =>
    obtain rfl := Except.error.inj h
    rw [Backed.reportRenewing_of_no_cause hc] at hf ⊢
    have ht := fetched_traced hr w
    rw [Renewal.fetched, Lease.use_failure hu hf] at ht
    rcases ht.error f rfl hf with hd | ⟨hno, _⟩
    · exact .inl hd
    · exact hno.elim
  | ok keys =>
    obtain ⟨rfl, hno⟩ := Backed.credentials_failure h
    refine .inr ⟨rfl, keys, ?_, hno, fun f hdue => Lease.advisory_of_use hu hdue⟩
    exact (keys?_renewed hr _).trans (Lease.keys_of_use hu)

/-- Why asking a source ends in a failure without a cause. No service has failed in any of these
ways, but for a renewal that was tried ahead of time while incomplete keys were held. -/
inductive Lacks (s : Source) (w : World) : Failure → Prop
  | absent {s' : Source} {v : World} (hl : s.look w = (.ok false, s', v))
    (hd : ∀ o ∈ w.delivered v, ∃ d, o = .ok d) : Lacks s w (.notFound s.name .nothing)
  | misconfigured {failure : Failure} {s' : Source} {v : World}
    (hl : s.look w = (.error failure, s', v)) (hm : failure.IsMisconfiguration s.name)
    (hd : w.delivered v = []) : Lacks s w failure
  | incomplete {s' : Source} {v : World} {keys : Keys} (hl : s.look w = (.ok true, s', v))
    (hd : ∀ o ∈ w.delivered v, ∃ d, o = .ok d) (hk : (s.ask w).2.1.keys? = some keys)
    (hno : keys.isComplete = false)
    (hp : ∀ r failure, s'.renewal? = some r → r.lease.IsDue v.clock →
      (r.fetched v).1 = .error failure → r.lease.need v.clock = .ok .advisory) :
    Lacks s w (.notFound s.name .incomplete)

theorem ask_without_cause (hs : s.IsBacked) (h : (s.ask w).1 = .error failure)
    (hf : failure.isForeign = false) (hc : failure.cause? = none) :
    .error failure ∈ w.delivered (s.ask w).2.2 ∨ s.Lacks w failure := by
  have ht := s.look_traced w
  have hlook := s.look_looked w
  rcases hl : s.look w with ⟨found, s', v⟩
  rw [hl] at ht hlook
  cases hlook with
  | @failed f _ _ _ ha =>
    rw [ha] at h ⊢
    obtain rfl := Except.error.inj h
    rw [Backed.reportLoading_of_no_cause hc] at hf ⊢
    rcases ht.error f rfl hf with hd | ⟨hm, hd⟩
    · exact .inl hd
    · exact .inr (.misconfigured hl hm hd)
  | absent _ ha =>
    rw [ha] at h
    obtain rfl := Except.error.inj h
    exact .inr (.absent hl (ht.ok false rfl))
  | found hloaded hb hn ha =>
    -- the look has not failed, so the failure is one of the use
    have hd := ht.ok true rfl
    rw [ha] at h
    cases hr : s'.renewal? with
    | none =>
      obtain ⟨keys, hk, hasked⟩ := ask_of_not_renewal (hb hs) hloaded hr v
      rw [hasked, hn] at h
      obtain ⟨rfl, hno⟩ := Backed.credentials_failure h
      refine .inr (.incomplete hl hd (by rw [ha, hasked]; exact hk) hno fun r _ hr' => ?_)
      rw [hr] at hr'
      cases hr'
    | some r =>
      rcases ask_of_renewal_without_cause hr h hf hc with hraised | ⟨rfl, keys, hk, hno, hp⟩
      · left
        rw [ha, ht.later.delivered_append (s'.ask_later v)]
        exact List.mem_append_right _ hraised
      · rw [hn]
        refine .inr (.incomplete hl hd (by rw [ha]; exact hk) hno fun r' f hr' => ?_)
        rw [hr] at hr'
        cases hr'
        exact hp f

/-! ### Outcomes that lack fields -/

/-- A source that renews no role reports a delivery that lacks fields, and holds what it held. -/
theorem ask_of_missing {d : Delivery} (hr : s.renewal? = some r) (hs : s.role? = none)
    (hdue : r.lease.IsDue w.clock) (hd : .ok d ∈ w.delivered (r.fetched w).2.2)
    (hm : d.missing ≠ []) :
    s.ask w = (.error (.renewing s.name (.incompleteKeys r.method d.missing)), s,
      (r.fetched w).2.2) := by
  have hfetched : (r.fetched w).1 = .ok d := by
    cases renewable_of_renewal hr with
    | @plain method fetch _ _ hf =>
      have hmem : .ok d ∈ w.delivered (fetch w).2 := hd
      rcases hf w with ⟨hw, _⟩ | ⟨call, hg, hdeliveries⟩
      · rw [hw, (Grew.refl w).delivered] at hmem
        cases hmem
      · rw [hg.delivered, hdeliveries] at hmem
        exact (List.mem_singleton.mp hmem).symm
    | role hrole _ =>
      rw [hs] at hrole
      cases hrole
  have hnow : r.lease.IsDue (Keeping.clock (r.stored, w)) := hdue
  have hf : r.fetch (r.stored, w) = (.ok d, (r.fetched w).2) := Prod.ext hfetched rfl
  have hused : (r.use w).1 = .error (.incompleteKeys r.method d.missing) :=
    congrArg Prod.fst (Lease.use_of_missing hnow hf hm)
  exact (ask_of_use_error hr hused rfl).1

/-- A reply about a role that lacks a part is kept and nothing else changes. It fails the fetch,
which is reported as it is when the keys have to be renewed, and passed over else. -/
theorem ask_of_lacking_reply {assumed : AssumedRole} {d : Delivery} (hr : s.renewal? = some r)
    (hs : s.role? = some assumed) (hdue : r.lease.IsDue w.clock)
    (hd : .ok d ∈ w.delivered (r.fetched w).2.2) (hm : d.missing ≠ []) :
    ∃ reply name, reply.delivery = d ∧ reply.missing? = some name ∧
      (s.ask w).2.1 = s.renewed { r with stored := some reply } ∧
      (r.lease.need w.clock = .ok .mandatory → (s.ask w).1 = .error (.missingField name)) ∧
      (r.lease.need w.clock = .ok .advisory →
        (s.ask w).1 = Renewal.answer s.name r.lease r.lease.handOut) := by
  have hfetched : ∃ reply name v, reply.delivery = d ∧ reply.missing? = some name ∧
      r.fetched w = (.error (.missingField name), some reply, v) := by
    cases renewable_of_renewal hr with
    | plain hplain _ =>
      rw [hs] at hplain
      cases hplain
    | @role assumed client _ _ => exact assumed.fetch_of_lacking client hd hm
  obtain ⟨reply, name, v, rfl, hname, hf⟩ := hfetched
  have hf' : r.fetch (r.stored, w) = (.error (.missingField name), some reply, v) := hf
  have hmandatory : r.lease.need w.clock = .ok .mandatory →
      r.use w = (.error (.missingField name), r.lease, some reply, v) :=
    fun hn => (Lease.use_of_failed hf').1 hn
  have hadvisory : r.lease.need w.clock = .ok .advisory →
      r.use w = (r.lease.handOut, r.lease, some reply, v) :=
    fun hn => (Lease.use_of_failed hf').2 hn
  rw [ask_of_renewal hr]
  refine ⟨reply, name, rfl, hname, ?_, fun hn => ?_, fun hn => ?_⟩
  · have hkept : (r.use w).2 = (r.lease, some reply, v) := by
      obtain ⟨need, hn, hu⟩ := hdue
      cases need with
      | unneeded => exact absurd rfl hu
      | advisory => exact congrArg Prod.snd (hadvisory hn)
      | mandatory => exact congrArg Prod.snd (hmandatory hn)
    rw [Renewal.used, hkept]
  · rw [hmandatory hn]
    rfl
  · rw [hadvisory hn]

/-- A reply that is kept and does not give way spares the source a request. -/
theorem ask_of_kept_reply {assumed : AssumedRole} {reply : RoleReply} (hs : s.role? = some assumed)
    (hstored : assumed.stored = some reply) (hserves : reply.serves w.clock ≠ .ok false) :
    (s.ask w).2.2 = w := by
  have hr : ∃ client, s.renewal? = some (.ofRole assumed client) := by
    cases s with
    | webIdentity state refresher =>
      obtain ⟨_, held⟩ := state
      obtain rfl : held = some assumed := hs
      exact ⟨_, rfl⟩
    | standard state =>
      obtain ⟨_, held⟩ := state
      obtain ⟨found, rfl, hfound⟩ := Option.bind_eq_some_iff.mp hs
      cases found with
      | role other view =>
        cases hfound
        exact ⟨_, rfl⟩
      | fixed _ | environment _ | machine _ | other _ _ => cases hfound
    | fixed _ | instanceProfile _ | profile _ | scripted _ _ => cases hs
  obtain ⟨client, hr⟩ := hr
  rw [ask_of_renewal hr]
  have hworld : (assumed.fetch client (assumed.stored, w)).2.2 = w := by
    have hf := assumed.fetch_fetching client (assumed.stored, w)
    generalize assumed.fetch client (assumed.stored, w) = result at hf
    rw [hstored] at hf
    cases hf with
    | unclear _ | served _ | unasked _ _ => rfl
    | failed hno _ _ _ _ | answered hno _ _ _ _ => exact absurd (hno reply rfl) hserves
  by_cases hdue : assumed.lease.IsDue (Keeping.clock (assumed.stored, w))
  · exact (congrArg Prod.snd (Lease.use_of_isDue hdue)).trans hworld
  · exact congrArg (·.2.2) (Lease.use_of_not_isDue hdue)

/-! ### Reports -/

/-- The reports of a source that loads once, and looks until it has. A look that ends in a failure
of the SDK or of the system is reported with the failure as the cause, and the source stays empty.
A renewal that ends in one is reported in the same way; the source still holds the keys that it
held, and fetches when it is asked again. A failure without a cause was raised by a service itself,
or else the source is absent, is not set up or holds keys that lack a part. A delivery that lacks
fields ends a renewal in such a failure at any time. A reply about a role that lacks a part only
fails the fetch: the keys and their expiry stay as they were, and the reply is kept. While a reply
that is kept does not give way, the source makes no request. -/
theorem ask_reports (hs : s.IsBacked) (w : World) :
    (s.isLoaded = true → s.look w = (.ok true, s, w)) ∧
    (∀ failure s' v, s.look w = (.error failure, s', v) → failure.isWrapped = true →
      s.ask w = (.error (.loading s.name failure), s', v) ∧ s'.isLoaded = false) ∧
    (∀ s' v r failure, s.look w = (.ok true, s', v) → s'.renewal? = some r →
      (r.use v).1 = .error failure → failure.isWrapped = true →
      s.ask w = (.error (.renewing s.name failure), s', (r.fetched v).2.2) ∧
        ∀ u, v.clock ≤ u.clock → (s'.ask u).2.2 = (r.fetched u).2.2) ∧
    (∀ failure, (s.ask w).1 = .error failure → failure.isCredentials = true →
      failure.cause? = none →
      .error failure ∈ w.delivered (s.ask w).2.2 ∨ s.Lacks w failure) ∧
    (∀ s' v r d, s.look w = (.ok true, s', v) → s'.renewal? = some r → r.lease.IsDue v.clock →
      .ok d ∈ v.delivered (r.fetched v).2.2 → d.missing ≠ [] →
      (s'.role? = none → s.ask w = (.error (.renewing s.name (.incompleteKeys r.method d.missing)),
        s', (r.fetched v).2.2)) ∧
      ∀ assumed, s'.role? = some assumed → ∃ reply name, reply.delivery = d ∧
        reply.missing? = some name ∧ (s.ask w).2.1 = s'.renewed { r with stored := some reply } ∧
        (r.lease.need v.clock = .ok .mandatory → (s.ask w).1 = .error (.missingField name)) ∧
        (r.lease.need v.clock = .ok .advisory →
          (s.ask w).1 = Renewal.answer s.name r.lease r.lease.handOut)) ∧
    ∀ assumed reply, s.role? = some assumed → assumed.stored = some reply →
      reply.serves w.clock ≠ .ok false → (s.ask w).2.2 = w := by
  have hlook := s.look_looked w
  refine ⟨fun hloaded => look_of_isLoaded hloaded w, fun failure s' v hl hf => ?_,
    fun s' v r failure hl hr hu hf => ?_, fun failure h hf hc => ?_,
    fun s' v r d hl hr hdue hd hm => ?_, fun _ _ => ask_of_kept_reply⟩
  · rw [hl] at hlook
    cases hlook with
    | failed hempty ha =>
      rw [ha, Backed.reportLoading, if_pos hf]
      exact ⟨rfl, hempty⟩
  · rw [hl] at hlook
    cases hlook with
    | found _ _ hn ha =>
      rw [ha, ← hn]
      exact ask_of_use_error hr hu hf
  · refine ask_without_cause hs h ?_ hc
    rw [Failure.isForeign, hf]
    rfl
  · rw [hl] at hlook
    cases hlook with
    | found _ _ hn ha =>
      rw [ha, ← hn]
      exact ⟨fun hno => ask_of_missing hr hno hdue hd hm,
        fun assumed hrole => ask_of_lacking_reply hr hrole hdue hd hm⟩

end Source

def WebIdentity.forApp : WebIdentity :=
  { client := ⟨"us-east-1", .unsigned⟩, role := some "role/app", tokenFile := some (.text "token") }

/-- A token file that cannot be read yet: the source reports it, and sends a request later on, when
there is one. -/
theorem Source.ask_reports_token :
    let s := (ofWebIdentity .forApp 60).ask {}
    let u : World := { files := [(["token"], .file [65])] }
    s.1 = .error (.renewing WebIdentity.name (.file (.missing "token"))) ∧
      (s.2.1.ask u).2.2.calls =
        [.assumeRole "role/app" "botocore-session-0" "A" ⟨"us-east-1", .unsigned⟩] := by
  intro s u
  obtain ⟨_, _, hrenewing, _⟩ := ask_reports (s := ofWebIdentity .forApp 60) trivial {}
  obtain ⟨hanswer, hagain⟩ := hrenewing _ _ _ (.file (.missing "token")) rfl rfl rfl rfl
  have hs : s = _ := hanswer
  rw [hs, hagain u (Int.le_refl 0)]
  exact ⟨rfl, rfl⟩

/-- The token service gives keys for an hour, and then keys without a secret one. -/
def World.ofLackingReply : World where
  files := [(["token"], .file [65])]
  roles := [.ok {}, .ok ⟨some { secretKey := none }⟩]

set_option maxRecDepth 20000 in
/-- The second reply comes ahead of time. It is passed over and kept, so the third asking hands out
the same keys without a request. -/
example :
    let first := (Source.ofWebIdentity .forApp 60).ask .ofLackingReply
    let second := first.2.1.ask (first.2.2.advance (2800 * Time.second))
    let third := second.2.1.ask (second.2.2.advance (100 * Time.second))
    first.1 = .ok ⟨⟨.text "ASIASTS", .text "sts-secret", .text "sts-token"⟩,
        some (.ofInstant Time.hour), some WebIdentity.name⟩ ∧
      second.1 = first.1 ∧ second.2.2.calls.length = 2 ∧
      third.1 = first.1 ∧ third.2.2.calls.length = 2 :=
  ⟨rfl, rfl, rfl, rfl, rfl⟩

/-- The metadata service gives keys without an access key, and fails from then on. -/
def World.ofPartialRole : World where
  metadata :=
    [.ok {
        fields := [("role_name", .text "app"), ("access_key", .text ""),
          ("secret_key", .text "first-secret"), ("token", .text "first-token")]
        expiresIn := some Time.hour },
      .error fun _ => .metadata "gone"]

set_option maxRecDepth 20000 in
/-- A failure without a cause although the service has failed: the renewal was tried ahead of time
and passed over, and what is held lacks a part. -/
theorem Source.ask_passed_over :
    let q := (ofInstance.ask .ofPartialRole).2.1
    let u := (ofInstance.ask .ofPartialRole).2.2.advance (2800 * Time.second)
    (q.ask u).1 = .error (.notFound InstanceProfile.name .incomplete) ∧
      (Failure.notFound InstanceProfile.name .incomplete).isCredentials = true ∧
      (Failure.notFound InstanceProfile.name .incomplete).cause? = none ∧
      u.delivered (q.ask u).2.2 = [.error (.metadata "gone")] :=
  ⟨rfl, rfl, rfl, rfl⟩

end CloudCredentials
