import CloudCredentials.Proofs.ExplicitFile
import CloudCredentials.Proofs.RefusedClients
import CloudCredentials.Proofs.SingleDelivery

/-!
# Failures that are none of a provider

What the SDK, the system and the language raise are foreign failures: a provider passes them on or
reports them as the cause of its own. The steps by which sources come by their keys fail in no other
way, but for what a service itself raises; so a failure of a provider's own can be traced.
-/

namespace CloudCredentials

open World

/-- A failure that no provider raises. -/
def Failure.isForeign (f : Failure) : Bool := !f.isCredentials

theorem FailsOnly.foreign {α : Type} {r : Except Failure α} (h : FailsOnly Failure.isWrapped r) :
    FailsOnly Failure.isForeign r :=
  h.mono fun f hf => by cases f <;> first | rfl | cases hf

/-! ### Leases -/

theorem readTime_isForeign (d : Datum) : FailsOnly Failure.isForeign (readTime d) := by
  unfold readTime
  split
  · split
    · exact failsOnly_ok _
    · exact (failsOnly_error _).mpr rfl
  · exact (failsOnly_error _).mpr rfl

theorem ExpiryField.read_isForeign (field : ExpiryField) :
    FailsOnly Failure.isForeign field.read := by
  cases field with
  | time t => exact .ite (failsOnly_ok _) ((failsOnly_error _).mpr rfl)
  | field d => exact readTime_isForeign d

theorem InstanceProfile.leaseOf_isForeign (fields : List (String × Datum)) :
    FailsOnly Failure.isForeign (leaseOf fields) := by
  have hfield (name : String) : FailsOnly Failure.isForeign (field fields name) := by
    unfold field
    split
    · exact failsOnly_ok _
    · exact (failsOnly_error _).mpr rfl
  unfold leaseOf
  refine .bind (hfield _) fun _ => .bind (hfield _) fun _ => .bind (hfield _) fun _ =>
    .bind (hfield _) fun _ => .bind (hfield _) fun _ =>
      .bind (ExpiryField.read_isForeign _) fun _ => failsOnly_pure _

theorem Lease.Storing.isForeign {method : String} {l l' : Lease} {d : Delivery} {now : Int}
    {failure : Failure} (h : Storing method l d now (.error failure, l')) :
    failure.isForeign = true := by
  cases h with
  | incomplete _ => rfl
  | unreadable _ hr => exact ExpiryField.read_isForeign _ _ hr
  | faulty _ _ hf =>
    rcases fault?_cases hf with ⟨_, rfl⟩ | ⟨_, _, _, rfl⟩
    · rfl
    · rfl

/-! ### Profiles and clients -/

theorem Failure.IsOfProfiles.isForeign {f : Failure} (h : f.IsOfProfiles) : f.isForeign = true := by
  rcases h with ⟨_, rfl⟩ | ⟨_, rfl⟩
  · rfl
  · rfl

theorem ActiveProfile.options_isForeign (a : ActiveProfile) (w : World) :
    FailsOnly Failure.isForeign (a.options w).1 :=
  fun _ h => (options_failure h).isForeign

theorem ClientRules.Raises.isForeign {rules : ClientRules} {settings : ClientSettings}
    {failure : Failure} (h : rules.Raises settings failure) : failure.isForeign = true := by
  rw [Failure.isForeign, rules.foreign settings failure h]
  rfl

theorem Standard.client_isForeign (a : ActiveProfile) (w : World) :
    FailsOnly Failure.isForeign (client a w) :=
  (unsignedClient_failsOnly a none w fun _ => rfl).mpr
    (not_unsignedEscapes (fun _ h => h.isForeign) (fun _ _ h => h.isForeign) a none)

/-! ### The places of the standard lookup -/

namespace EnvironmentKeys

theorem required_isForeign (env : Environment) (name : String) :
    FailsOnly Failure.isForeign (required env name) := by
  unfold required
  split
  · exact failsOnly_ok _
  · exact (failsOnly_error _).mpr rfl

theorem keys_isForeign (env : Environment) : FailsOnly Failure.isForeign (keys env) :=
  .bind (required_isForeign _ _) fun _ => .bind (required_isForeign _ _) fun _ => failsOnly_pure _

theorem delivery_isForeign (env : Environment) : FailsOnly Failure.isForeign (delivery env) :=
  .bind (keys_isForeign _) fun _ => .bind (required_isForeign _ _) fun _ => failsOnly_pure _

end EnvironmentKeys

namespace Standard

theorem inEnvironment_isForeign (w : World) : FailsOnly Failure.isForeign (inEnvironment w) := by
  have hk := EnvironmentKeys.keys_isForeign w.environment
  unfold inEnvironment
  split
  · exact failsOnly_ok _
  · split
    · rename_i he
      exact hk.passed he
    · split
      · exact failsOnly_ok _
      · exact (failsOnly_map _).mpr (ExpiryField.read_isForeign _)

theorem inWebIdentity_isForeign (a : ActiveProfile) (options : ProfileFile.Section) (w : World) :
    FailsOnly Failure.isForeign (inWebIdentity a options w) := by
  unfold inWebIdentity
  dsimp only
  split
  · exact failsOnly_ok _
  · split
    · exact (failsOnly_error _).mpr rfl
    · exact .ite ((failsOnly_error _).mpr rfl) (failsOnly_ok _)

theorem inFiles_isForeign (profile : String) (w : World) :
    FailsOnly Failure.isForeign (inFiles profile w) := by
  unfold inFiles
  split
  · rename_i he
    exact (ProfileFile.credentialsFileKeys_isWrapped _ _ _).foreign.passed he
  · exact failsOnly_ok _
  · exact (ProfileFile.configFileKeys_isWrapped _ _ _).foreign

theorem inPlaces_isForeign (a : ActiveProfile) (profiles : ProfileFile.Sections) (w : World) :
    FailsOnly Failure.isForeign (inPlaces a profiles w) := by
  have henvironment : FailsOnly Failure.isForeign
      (if a.name.isSome then .ok none else inEnvironment w) :=
    .ite (failsOnly_ok _) (inEnvironment_isForeign w)
  unfold inPlaces
  dsimp only
  split
  · rename_i he
    exact henvironment.passed he
  · exact failsOnly_ok _
  · split
    · rename_i he
      exact (inWebIdentity_isForeign _ _ _).passed he
    · exact failsOnly_ok _
    · exact (failsOnly_map _).mpr (inFiles_isForeign _ w)

end Standard

/-! ### Tracing failures -/

/-- A step of a source: if it succeeds, no service has failed; if it ends in a failure of a
provider's, a service has raised this one, or it is one of the source's own, and no service was
asked. -/
structure Traced {α : Type} (own : Failure → Prop) (w : World) (r : Except Failure α) (v : World) :
    Prop where
  later : w.Later v
  ok : ∀ a, r = .ok a → ∀ o ∈ w.delivered v, ∃ d, o = .ok d
  error : ∀ failure, r = .error failure → failure.isForeign = false →
    .error failure ∈ w.delivered v ∨ own failure ∧ w.delivered v = []

namespace Traced

variable {α β : Type} {own : Failure → Prop} {w v u : World} {r : Except Failure α}

theorem delivered_of_logged (h : w.Logged v) : w.delivered v = [] :=
  ((Grew.refl w).logged h).delivered

theorem of_logged (h : w.Logged v) (hr : ∀ f, r = .error f → f.isForeign = false → own f) :
    Traced own w r v := by
  have hnone := delivered_of_logged h
  refine ⟨h.later, fun _ _ o ho => ?_, fun f he hf => .inr ⟨hr f he hf, hnone⟩⟩
  rw [hnone] at ho
  cases ho

theorem of_foreign (h : w.Logged v) (hr : FailsOnly Failure.isForeign r) : Traced own w r v :=
  of_logged h fun f he hf => absurd (hr f he) (by rw [hf]; exact Bool.noConfusion)

theorem map (h : Traced own w r v) (g : α → β) : Traced own w (r.map g) v := by
  cases r with
  | error f =>
    refine ⟨h.later, fun _ he => ?_, fun f' he => ?_⟩
    · cases he
    · cases he
      exact h.error f rfl
  | ok a =>
    refine ⟨h.later, fun _ _ => h.ok a rfl, fun f' he => ?_⟩
    cases he

/-- A step that is one call, with what it delivers. -/
theorem of_call {call : Call} {d : Except Failure Delivery} (hg : w.Grew [call] v)
    (hd : w.deliveries [call] = [d]) (hok : ∀ a, r = .ok a → ∃ d', d = .ok d')
    (herror : ∀ f, r = .error f → f.isForeign = false → d = .error f) : Traced own w r v := by
  have hdelivered : w.delivered v = [d] := hg.delivered.trans hd
  refine ⟨⟨_, hg⟩, fun a ha o ho => ?_, fun f he hf => .inl ?_⟩
  · rw [hdelivered] at ho
    rw [List.mem_singleton.mp ho]
    exact hok a ha
  · rw [hdelivered, herror f he hf]
    exact List.mem_singleton_self _

/-- Calls before a step that deliver nothing do not count. -/
theorem after_silent {calls : List Call} (hg : w.Grew calls v) (hd : w.deliveries calls = [])
    (h : Traced own v r u) : Traced own w r u := by
  have hdelivered : w.delivered u = v.delivered u := by
    obtain ⟨more, hmore⟩ := h.later
    rw [(hg.trans hmore).delivered, hmore.delivered, hg.deliveries_append, hd, List.nil_append]
  refine ⟨.trans ⟨calls, hg⟩ h.later, ?_, ?_⟩
  · rw [hdelivered]
    exact h.ok
  · rw [hdelivered]
    exact h.error

theorem looking (shown : String) (h : Traced own (Backed.looking shown w) r v) :
    Traced own w r v :=
  h.after_silent ((Grew.refl w).record ..) rfl

end Traced

end CloudCredentials
