import CloudCredentials.Proofs.CalmAsks
import CloudCredentials.Proofs.CommandEnds
import CloudCredentials.Proofs.Secrecy

/-!
# Whether validation answers

The validation of a session takes failures of providers and of the SDK to mean that its keys are not
valid, and lets all others pass. For each stage of a request for the account, the conditions under
which it ends in a failure that passes. A validation answers exactly when none of them holds: it
finds the keys valid if the account is returned, and otherwise finds them not valid and logs one
error. When one of them holds it ends in the failure itself, and logs none.
-/

namespace CloudCredentials

open CommandLine World

/-! ### Failures that validation catches -/

namespace Session

/-- The failures that mean that the keys of a session are not valid. -/
def catches (f : Failure) : Bool := f.isCredentials || f.isSdk

/-- Where no failure is one of the system, the failures that pass are the stray ones. -/
theorem failsOnly_catches_iff {α : Type} {r : Except Failure α}
    (h : ∀ f, r = .error f → f.isCredentials = false → f.isSystem = false) :
    FailsOnly catches r ↔ ¬ Strays r := by
  cases r with
  | ok a => exact iff_of_true (failsOnly_ok a) (strays_ok a)
  | error f =>
    rw [failsOnly_error, strays_error, Failure.IsStray, catches, Failure.isWrapped]
    have hs := h f rfl
    cases hc : f.isCredentials with
    | true => simp
    | false =>
      rw [hs hc]
      cases f.isSdk <;> simp

/-! ### Asking the provider -/

section Provider

variable {p : Provider} {w : World} (h : Provider.Each Source.IsGenuine (p, w))

include h

theorem resolve_keeps_iff_breaks : KeepsContract (p.resolve w).1 ↔ ¬ p.Breaks w := by
  cases p with
  | leaf s => exact Source.ask_keeps_iff (h s (List.mem_singleton_self s))
  | chain members => exact iff_of_true (Provider.chain_keeps h) id

theorem resolve_unwrapped {f : Failure} (hr : (p.resolve w).1 = .error f)
    (hc : f.isCredentials = false) : f.isWrapped = false := by
  cases p with
  | leaf s => exact Source.ask_unwrapped (h s (List.mem_singleton_self s)) hr hc
  | chain members =>
    have hkeeps := Provider.chain_keeps h
    rw [hr] at hkeeps
    exact absurd hkeeps (Bool.eq_false_iff.mp hc)

theorem resolve_unsystem {f : Failure} (hr : (p.resolve w).1 = .error f)
    (hc : f.isCredentials = false) : f.isSystem = false :=
  (Bool.or_eq_false_iff.mp (resolve_unwrapped h hr hc)).2

theorem resolve_strays : Strays (p.resolve w).1 ↔ p.Breaks w := by
  have hkeeps := resolve_keeps_iff_breaks h
  cases hr : (p.resolve w).1 with
  | error f =>
    rw [hr] at hkeeps
    rw [strays_error]
    constructor
    · intro hs
      refine Classical.not_not.mp fun hn => ?_
      exact Bool.eq_false_iff.mp hs.2 (hkeeps.mpr hn)
    · intro hb
      have hc : f.isCredentials = false := Bool.eq_false_iff.mpr fun hc => hkeeps.mp hc hb
      exact ⟨resolve_unwrapped h hr hc, hc⟩
  | ok c =>
    refine iff_of_false (strays_ok c) ?_
    cases p with
    | leaf s =>
      have ha : s.ask w = (.ok c, (s.ask w).2) := Prod.ext hr rfl
      rw [hr] at hkeeps
      exact hkeeps.mp (Source.ask_isComplete (h s (List.mem_singleton_self s)) ha)
    | chain members => exact id

theorem fetch_strays : Strays (fetch Provider.resolve (p, w)).1 ↔ p.Breaks w := by
  have hstrays := resolve_strays h
  unfold fetch
  dsimp only
  rcases hr : p.resolve w with ⟨f | c, p', v⟩
  · rw [hr, strays_error] at hstrays
    exact (strays_error f).trans hstrays
  · rw [hr] at hstrays
    exact iff_of_false (strays_ok _) (hstrays.not.mp (strays_ok c))

end Provider

theorem fetch_clock (s : Provider × World) : (fetch Provider.resolve s).2.2.clock = s.2.clock := by
  obtain ⟨calls, hgrew⟩ := s.1.resolve_later s.2
  have hc := hgrew.clock
  unfold fetch
  rcases hr : Provider.resolve s.1 s.2 with ⟨f | c, p', v⟩
  · rw [hr] at hc
    exact hc
  · rw [hr] at hc
    exact hc

/-! ### The keys of a session -/

theorem read_unsystem {field : ExpiryField} {f : Failure} (h : field.read = .error f) :
    f.isSystem = false := by
  have hno : field.IsUnreadable := fun t ht => by
    rw [ht] at h
    cases h
  have hstrays := field.read_strays.mpr hno
  rw [h, strays_error] at hstrays
  exact (Bool.or_eq_false_iff.mp hstrays.1).2

/-- The condition under which the first load of keys ends in a failure that passes: asking the
provider breaks its promise, or it answers with an expiration that cannot be written and read. -/
def LoadEscapes (s : Session) (p : Provider) (w : World) : Prop :=
  s.held = none ∧ (p.Breaks w ∨ After (p.resolve w) fun c _ =>
    ∃ t, c.expiration = some t ∧ (written t).IsUnreadable)

theorem keysOf_catches (c : Credentials) : FailsOnly catches (keysOf c) ↔
    ¬ ∃ t, c.expiration = some t ∧ (written t).IsUnreadable := by
  unfold keysOf
  cases c.expiration with
  | none => simp
  | some t =>
    have hread : FailsOnly catches (written t).read ↔ ¬ (written t).IsUnreadable := by
      rw [failsOnly_catches_iff fun f hf _ => read_unsystem hf, ExpiryField.read_strays]
    simpa using hread

theorem load_catches {p : Provider} {w : World} (h : Provider.Each Source.IsGenuine (p, w))
    (s : Session) :
    FailsOnly catches (s.load Provider.resolve p w).1 ↔ ¬ s.LoadEscapes p w := by
  have hresolve := (failsOnly_catches_iff fun _ => resolve_unsystem h).trans
    (not_congr (resolve_strays h))
  unfold load LoadEscapes
  cases s.held with
  | some held => simp
  | none =>
    simp only [true_and]
    refine failsOnly_stage hresolve ?_ ?_
    · rintro f ⟨p', v⟩ hr
      simp only [hr]
    · rintro c ⟨p', v⟩ hr
      have hkeys := keysOf_catches c
      simp only [hr]
      cases hk : keysOf c with
      | error f =>
        rw [hk, failsOnly_error] at hkeys
        exact (failsOnly_error f).trans hkeys
      | ok held =>
        rw [hk] at hkeys
        exact iff_of_true (failsOnly_ok held) (hkeys.mp (failsOnly_ok held))

/-- The condition under which the use of held keys ends in a failure that passes: their expiry has
no offset; or a renewal brings an expiration that cannot be read, has no offset or is past; or
asking the provider breaks its promise, in a renewal that cannot be passed over. -/
def HeldEscapes (p : Provider) (w : World) : SessionKeys → Prop
  | .fixed _ => False
  | .leased lease => lease.Breaks w.clock (fetch Provider.resolve (p, w)).1 (p.Breaks w)

theorem storing_unsystem {method : String} {l l' : Lease} {d : Delivery} {now : Int} {f : Failure}
    (h : Lease.Storing method l d now (.error f, l')) : f.isSystem = false := by
  cases h with
  | incomplete _ => rfl
  | unreadable _ hr => exact read_unsystem hr
  | faulty _ _ hf =>
    rcases Lease.fault?_cases hf with ⟨_, rfl⟩ | ⟨_, _, _, rfl⟩
    · rfl
    · rfl

theorem useHeld_catches {p : Provider} {w : World} (h : Provider.Each Source.IsGenuine (p, w))
    (held : SessionKeys) (s : Session) :
    FailsOnly catches (useHeld Provider.resolve held s p w).1 ↔ ¬ HeldEscapes p w held := by
  cases held with
  | fixed keys => exact iff_of_true (failsOnly_ok keys) id
  | leased lease =>
    simp only [useHeld, HeldEscapes]
    have hstrays : Strays (lease.use method (fun (s : Provider × World) => s.2.clock)
        (fetch Provider.resolve) (p, w)).1 ↔
          lease.Breaks w.clock (fetch Provider.resolve (p, w)).1 (p.Breaks w) :=
      Lease.use_strays method (fetch_clock (p, w)) (fetch_strays h)
    refine (failsOnly_catches_iff fun f hf hc => ?_).trans (not_congr hstrays)
    rcases hu : lease.use method (fun (s : Provider × World) => s.2.clock)
      (fetch Provider.resolve) (p, w) with ⟨answer, lease', x⟩
    rw [hu] at hf
    cases hf
    rcases Lease.use_error hu with ⟨hn, _⟩ | ⟨_, hfetch, _⟩ | ⟨_, _, _, _, _, hstoring⟩
    · obtain ⟨_, rfl⟩ := Lease.need_error.mp hn
      rfl
    · have hr := fetch_error hfetch
      exact resolve_unsystem h (by rw [hr]) hc
    · exact storing_unsystem hstoring

/-! ### The account -/

/-- The service raises a failure that passes, or its answer lacks a field. -/
def IdentityEscapes (w : World) : Prop :=
  match (w.identity.next (.ok {})).1 with
  | .error failure => catches (failure identityOperation) = false
  | .ok answer => ∃ name ∈ ["Account", "UserId", "Arn"], answer.fields.lookup name = none

theorem requestIdentity_catches (client : Client) (w : World) :
    FailsOnly catches (requestIdentity client w).1 ↔ ¬ IdentityEscapes w := by
  unfold requestIdentity IdentityEscapes
  dsimp only
  cases (w.identity.next (.ok {})).1 with
  | error failure => rw [failsOnly_error, Bool.not_eq_false]
  | ok answer => exact accountOf_failsOnly (fun _ => rfl) answer

/-- The condition under which a request for the account ends in a failure that passes: the client
cannot be begun; the first load does so; the client has no endpoint; or else using the keys does so,
or the service does. -/
def AccountEscapes (s : Session) (p : Provider) (w : World) : Prop :=
  PlanEscapes catches s.view s.region w ∨ After (s.clientPlan w) fun plan s =>
    s.LoadEscapes p w ∨ After (s.load Provider.resolve p w) fun held x =>
      EndpointEscapes catches plan x.2.2 ∨
        ∃ name, plan.endpoint x.2.2 = .ok name ∧ (HeldEscapes x.2.1 x.2.2 held ∨
          After (useHeld Provider.resolve held x.1 x.2.1 x.2.2) fun _ y => IdentityEscapes y.2.2)

/-- A provider of genuine sources is left as one. -/
def StaysGenuine (x y : Provider × World) : Prop :=
  Provider.Each Source.IsGenuine x → Provider.Each Source.IsGenuine y

theorem keys_isGenuine {p : Provider} {w : World} (h : Provider.Each Source.IsGenuine (p, w))
    (s : Session) : Provider.Each Source.IsGenuine (s.keys Provider.resolve p w).2.2 :=
  keys_respects (R := StaysGenuine) (fun _ => id) (fun _ => resolve_isGenuine)
    (fun hxy hyz hx => hyz (hxy hx)) s p w h

theorem account_isGenuine {p : Provider} {w : World} (h : Provider.Each Source.IsGenuine (p, w))
    (s : Session) : Provider.Each Source.IsGenuine (s.account Provider.resolve p w).2.2 :=
  account_respects (R := StaysGenuine) (fun _ => id) (fun _ => resolve_isGenuine)
    (fun hxy hyz hx => hyz (hxy hx)) (fun _ _ _ hp s hs => (hp s hs).at_world _) s p w h

theorem account_catches {p : Provider} {w : World} (h : Provider.Each Source.IsGenuine (p, w))
    (s : Session) :
    FailsOnly catches (s.account Provider.resolve p w).1 ↔ ¬ s.AccountEscapes p w := by
  have hplan : FailsOnly catches (s.clientPlan w).1 ↔ ¬ PlanEscapes catches s.view s.region w :=
    clientPlan_failsOnly s.view s.region w fun _ => rfl
  refine failsOnly_stage hplan ?_ ?_
  · intro f s₁ hc
    simp only [account, hc]
  intro plan s₁ hc
  refine failsOnly_stage (load_catches h s₁) ?_ ?_
  · intro f x hl
    simp only [account, hc, hl]
  rintro held ⟨s₂, p₂, v⟩ hl
  have hgenuine := load_respects (R := StaysGenuine) (fun _ => id) (fun _ => resolve_isGenuine)
    s₁ p w h
  rw [hl] at hgenuine
  have hendpoint : FailsOnly catches (plan.endpoint v) ↔ ¬ EndpointEscapes catches plan v :=
    endpoint_failsOnly v plan
  cases he : plan.endpoint v with
  | error f =>
    rw [he, failsOnly_error] at hendpoint
    have hend : (s.account Provider.resolve p w).1 = .error f := by
      simp only [account, hc, hl, he]
    rw [hend, failsOnly_error, hendpoint]
    refine not_congr ⟨.inl, fun hn => hn.resolve_right ?_⟩
    rintro ⟨_, hn, _⟩
    cases hn
  | ok name =>
    rw [he] at hendpoint
    simp only [or_iff_right (hendpoint.mp (failsOnly_ok name)), Except.ok.injEq, exists_eq_left']
    refine failsOnly_stage (useHeld_catches hgenuine held s₂) ?_ ?_
    · intro f x hu
      simp only [account, hc, hl, he, hu]
    · rintro keys ⟨s₃, p₃, u⟩ hu
      simp only [account, hc, hl, he, hu]
      exact requestIdentity_catches _ u

/-! ### Validation -/

section Validate

variable {s s' : Session} {p p' : Provider} {w v : World}

theorem validate_of_ok {a : Account}
    (h : s.account Provider.resolve p w = (.ok a, s', p', v)) :
    s.validate Provider.resolve p w = (.ok true, s', p', v) := by
  unfold validate
  rw [h]

theorem validate_of_caught {f : Failure}
    (h : s.account Provider.resolve p w = (.error f, s', p', v)) (hc : catches f = true) :
    s.validate Provider.resolve p w = (.ok false, s', p',
      v.record .error .session ("Credential validation failed: " ++ f.message)) := by
  unfold validate
  rw [h]
  exact if_pos hc

theorem validate_of_passed {f : Failure}
    (h : s.account Provider.resolve p w = (.error f, s', p', v)) (hc : catches f = false) :
    s.validate Provider.resolve p w = (.error f, s', p', v) := by
  unfold validate
  rw [h]
  exact if_neg (Bool.eq_false_iff.mp hc)

theorem validate_isGenuine (h : Provider.Each Source.IsGenuine (p, w)) (s : Session) :
    Provider.Each Source.IsGenuine (s.validate Provider.resolve p w).2.2 := by
  have ha := account_isGenuine h s
  rcases hx : s.account Provider.resolve p w with ⟨failure | account, s', p', v⟩
  · rw [hx] at ha
    cases hc : catches failure with
    | true =>
      rw [validate_of_caught hx hc]
      exact fun source hs => (ha source hs).at_world _
    | false =>
      rw [validate_of_passed hx hc]
      exact ha
  · rw [hx] at ha
    rw [validate_of_ok hx]
    exact ha

end Validate

end Session

/-- Exactly so many records of errors were added. -/
def World.LoggedErrors (w v : World) (n : Nat) : Prop :=
  ∃ added, v.log = w.log ++ added ∧ added.countP (·.level = .error) = n

theorem World.Calm.loggedErrors {w v : World} (h : w.Calm v) : w.LoggedErrors v 0 := by
  obtain ⟨added, hlog, hadded⟩ := h
  refine ⟨added, hlog, List.countP_eq_zero.mpr fun r hr => ?_⟩
  simpa using hadded r hr

theorem World.Calm.loggedError {w v : World} (h : w.Calm v) (channel : Channel) (text : String) :
    w.LoggedErrors (v.record .error channel text) 1 := by
  obtain ⟨added, hlog, hcount⟩ := h.loggedErrors
  refine ⟨added ++ [⟨.error, channel, text⟩], ?_, ?_⟩
  · rw [log_record, hlog, List.append_assoc]
  · rw [List.countP_append, hcount]
    rfl

namespace Session

/-- A validation answers: it finds the keys valid exactly when a request for the account returns,
finds them not valid and logs one error exactly when it fails, and does not fail itself. -/
structure Answers (s : Session) (p : Provider) (w : World) : Prop where
  valid : (s.validate Provider.resolve p w).1 = .ok true ↔
    ∃ account, (s.account Provider.resolve p w).1 = .ok account
  invalid : (s.validate Provider.resolve p w).1 = .ok false ∧
      w.LoggedErrors (s.validate Provider.resolve p w).2.2.2 1 ↔
    ∃ failure, (s.account Provider.resolve p w).1 = .error failure
  returns : ∃ isValid, (s.validate Provider.resolve p w).1 = .ok isValid

/-- A validation ends in the failure of the request for the account, and logs no error. -/
def Passes (s : Session) (p : Provider) (w : World) : Prop :=
  ∃ failure, (s.account Provider.resolve p w).1 = .error failure ∧
    (s.validate Provider.resolve p w).1 = .error failure ∧
    w.LoggedErrors (s.validate Provider.resolve p w).2.2.2 0

theorem answers_of_catches {s : Session} {p : Provider} {w : World}
    (h : FailsOnly catches (s.account Provider.resolve p w).1) : s.Answers p w := by
  have hcalm := s.account_calm p w
  rcases ha : s.account Provider.resolve p w with ⟨failure | account, s', p', v⟩
  · rw [ha] at h hcalm
    have hv := validate_of_caught ha ((failsOnly_error failure).mp h)
    refine ⟨?_, ?_, ?_⟩
    · rw [hv, ha]
      exact iff_of_false nofun nofun
    · rw [hv, ha]
      exact iff_of_true ⟨rfl, hcalm.loggedError ..⟩ ⟨failure, rfl⟩
    · rw [hv]
      exact ⟨false, rfl⟩
  · have hv := validate_of_ok ha
    refine ⟨?_, ?_, ?_⟩
    · rw [hv, ha]
      exact iff_of_true rfl ⟨account, rfl⟩
    · rw [hv, ha]
      exact iff_of_false (fun hn => nomatch hn.1) nofun
    · rw [hv]
      exact ⟨true, rfl⟩

theorem passes_of_not_catches {s : Session} {p : Provider} {w : World}
    (h : ¬ FailsOnly catches (s.account Provider.resolve p w).1) : s.Passes p w := by
  have hcalm := s.account_calm p w
  rcases ha : s.account Provider.resolve p w with ⟨failure | account, s', p', v⟩
  · rw [ha] at h hcalm
    rw [failsOnly_error, Bool.not_eq_true] at h
    have hv := validate_of_passed ha h
    refine ⟨failure, by rw [ha], by rw [hv], ?_⟩
    rw [hv]
    exact hcalm.loggedErrors
  · rw [ha] at h
    exact absurd (failsOnly_ok account) h

theorem Passes.not_answers {s : Session} {p : Provider} {w : World} (h : s.Passes p w) :
    ¬ s.Answers p w := by
  intro hanswers
  obtain ⟨failure, -, hv, -⟩ := h
  obtain ⟨isValid, hreturns⟩ := hanswers.returns
  rw [hv] at hreturns
  cases hreturns

theorem answers_iff {s : Session} {p : Provider} {w : World}
    (h : Provider.Each Source.IsGenuine (p, w)) :
    (s.Answers p w ↔ ¬ s.AccountEscapes p w) ∧ (s.AccountEscapes p w → s.Passes p w) := by
  have hcatches := account_catches h s
  have passes (he : s.AccountEscapes p w) : s.Passes p w :=
    passes_of_not_catches fun hf => hcatches.mp hf he
  refine ⟨⟨fun hanswers he => ?_, fun he => ?_⟩, passes⟩
  · exact (passes he).not_answers hanswers
  · exact answers_of_catches (hcatches.mpr he)

end Session

/-! ### The providers of a caller -/

theorem Provider.Each.at_world {p : Provider} {w : World}
    (h : Provider.Each Source.IsGenuine (p, w)) (v : World) :
    Provider.Each Source.IsGenuine (p, v) :=
  fun s hs => (h s hs).at_world v

theorem Provider.isGenuine_chain {members : List Provider} {w : World}
    (h : ∀ m ∈ members, Each Source.IsGenuine (m, w)) :
    Each Source.IsGenuine (.chain members, w) := by
  intro s hs
  obtain ⟨m, hm, hs⟩ := Tree.mem_leaves_chain.mp hs
  exact h m hm s hs

theorem Source.Made.each {s : Source} (h : s.Made) (w : World) :
    Provider.Each Source.IsGenuine (.leaf s, w) := by
  intro x hx
  rw [List.mem_singleton.mp hx]
  exact h.isGenuine w

theorem Part.make_isGenuine {part : Part} {w v : World} {p : Provider}
    (h : part.make w = (.ok p, v)) : Provider.Each Source.IsGenuine (p, v) := by
  cases part with
  | keys k =>
    dsimp only [make] at h
    cases hs : Source.ofKeys k with
    | error failure =>
      rw [hs] at h
      cases h
    | ok s =>
      rw [hs] at h
      cases h
      exact (Source.Made.keys hs).each w
  | metadata =>
    cases h
    exact Source.Made.metadata.each w
  | profile name file =>
    dsimp only [make] at h
    cases hs : Source.ofProfile w.environment.home name file with
    | error failure =>
      rw [hs] at h
      cases h
    | ok s =>
      rw [hs] at h
      cases h
      exact (Source.Made.profile hs).each w
  | federation parameters interval =>
    cases h
    exact (Source.Made.webIdentity parameters interval).each w
  | standard name =>
    cases h
    exact (Source.Made.standard name).each w
  | settings available region properties => exact selected_isGenuine h

namespace Plan

theorem makeAll_isGenuine {members : List Plan}
    (hm : ∀ m ∈ members, ∀ {w p v}, make m w = (.ok p, v) →
      Provider.Each Source.IsGenuine (p, v))
    {w v : World} {made : List Provider} (h : makeAll members w = (.ok made, v)) :
    ∀ p ∈ made, Provider.Each Source.IsGenuine (p, v) := by
  induction members generalizing w v made with
  | nil =>
    cases h
    exact nofun
  | cons t rest ih =>
    rw [makeAll] at h
    rcases ht : make t w with ⟨failure | p, u⟩
    · rw [ht] at h
      cases h
    rw [ht] at h
    dsimp only at h
    rcases hr : makeAll rest u with ⟨failure | others, x⟩
    · rw [hr] at h
      cases h
    rw [hr] at h
    cases h
    have hp := Provider.Each.at_world (hm t List.mem_cons_self ht) v
    have hothers := ih (fun m hmem => hm m (List.mem_cons_of_mem _ hmem)) hr
    exact List.forall_mem_cons.mpr ⟨hp, hothers⟩

/-- A provider that is made by a plan is made of genuine sources only. -/
theorem make_isGenuine (plan : Plan) : ∀ {w p v}, make plan w = (.ok p, v) →
    Provider.Each Source.IsGenuine (p, v) := by
  induction plan using Tree.inductionOn with
  | leaf part => exact Part.make_isGenuine
  | chain members ih =>
    intro w p v h
    rw [make] at h
    rcases hm : makeAll members w with ⟨failure | made, u⟩
    · rw [hm] at h
      cases h
    rw [hm] at h
    dsimp only at h
    have hall := makeAll_isGenuine ih hm
    cases made with
    | nil => cases h
    | cons first rest =>
      cases h
      exact Provider.isGenuine_chain hall

end Plan

namespace Caller

variable {c : Caller}

/-- All providers of the caller are made of genuine sources. -/
def IsGenuine (c : Caller) : Prop :=
  ∀ p ∈ c.providers, Provider.Each Source.IsGenuine (p, c.world)

theorem IsGenuine.of_providers (h : c.IsGenuine) {c' : Caller} (hp : c'.providers = c.providers) :
    c'.IsGenuine := by
  intro p hmem
  rw [hp] at hmem
  exact (h p hmem).at_world c'.world

theorem IsGenuine.set (h : c.IsGenuine) {i : Nat} {p : Provider} {v : World}
    (hp : Provider.Each Source.IsGenuine (p, v)) {sessions : List (Nat × Session)} :
    IsGenuine ⟨c.providers.set i p, sessions, v⟩ := by
  intro q hq
  rcases List.mem_or_eq_of_mem_set hq with hq | rfl
  · exact (h q hq).at_world v
  · exact hp

theorem onProvider_isGenuine (h : c.IsGenuine) (i : Nat)
    {f : Provider → World → Reply × Provider × World}
    (hf : ∀ {p w}, Provider.Each Source.IsGenuine (p, w) →
      Provider.Each Source.IsGenuine (f p w).2) : (c.onProvider i f).2.IsGenuine := by
  unfold onProvider
  cases hp : c.providers[i]? with
  | none => exact h
  | some p => exact h.set (hf (h p (List.mem_of_getElem? hp)))

theorem onSession_isGenuine (h : c.IsGenuine) (j : Nat)
    {f : Session → Provider → World → Reply × Session × Provider × World}
    (hf : ∀ {s p w}, Provider.Each Source.IsGenuine (p, w) →
      Provider.Each Source.IsGenuine (f s p w).2.2) : (c.onSession j f).2.IsGenuine := by
  unfold onSession
  cases c.sessions[j]? with
  | none => exact h
  | some e =>
    obtain ⟨i, s⟩ := e
    dsimp only
    cases hp : c.providers[i]? with
    | none => exact h
    | some p => exact h.set (hf (h p (List.mem_of_getElem? hp)))

theorem make_isGenuine (h : c.IsGenuine) (plan : Plan) : (c.make plan).2.IsGenuine := by
  unfold make
  rcases hm : Plan.make plan c.world with ⟨failure | p, v⟩
  · exact h.of_providers rfl
  · intro q hq
    rcases List.mem_append.mp hq with hq | hq
    · exact (h q hq).at_world v
    · rw [List.mem_singleton.mp hq]
      exact Plan.make_isGenuine plan hm

theorem openSession_providers (c : Caller) (i : Nat) (region : Option RegionProvider) :
    (c.openSession i region).2.providers = c.providers := by
  unfold openSession
  rcases Session.create region c.world with ⟨failure | s, v⟩
  · rfl
  · rfl

theorem step_isGenuine (h : c.IsGenuine) (r : Request) : (step r c).2.IsGenuine := by
  cases r with
  | make plan => exact make_isGenuine h plan
  | describe i => exact onProvider_isGenuine h i id
  | resolve i => exact onProvider_isGenuine h i resolve_isGenuine
  | close i =>
    exact onProvider_isGenuine h i (Source.isGenuine_invariant.step (e := .close) trivial)
  | tick i place =>
    exact onProvider_isGenuine h i (Source.isGenuine_invariant.step (e := .tick place) trivial)
  | session i region =>
    dsimp only [step]
    split
    · exact h.of_providers (openSession_providers c i region)
    · exact h
  | keys j => exact onSession_isGenuine h j fun hp => Session.keys_isGenuine hp _
  | account j => exact onSession_isGenuine h j fun hp => Session.account_isGenuine hp _
  | validate j => exact onSession_isGenuine h j fun hp => Session.validate_isGenuine hp _
  | around e => exact h.of_providers rfl

theorem run_isGenuine (h : c.IsGenuine) (rs : List Request) : (run rs c).2.IsGenuine := by
  induction rs generalizing c with
  | nil => exact h
  | cons r rest ih => exact ih (step_isGenuine h r)

/-- Fixed keys, and a session in a given region. -/
def fixedSession : List Request :=
  [.make (.leaf (.keys ⟨.text "AKIASTATIC", .text "static-secret", .absent⟩)),
    .session 0 (some (.fixed "eu-west-1"))]

/-- The token service leaves the name of the user out of its answer. -/
def withoutArn : World where
  identity := [.ok ⟨[("Account", .text "123456789012"), ("UserId", .text "AIDA")]⟩]

end Caller

end CloudCredentials
