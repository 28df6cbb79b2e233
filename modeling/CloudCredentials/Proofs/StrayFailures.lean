import CloudCredentials.Proofs.FailureKinds
import CloudCredentials.Proofs.KeptReplies
import CloudCredentials.Provider.Source

/-!
# Failures that sources do not report as their own

A source reports failures of the SDK and of the system in its own name, and lets all others pass.
A failure that passes and is none of a provider's is stray. For each way to look for keys and for
each use of keys, the conditions under which it ends in a stray failure.
-/

namespace CloudCredentials

/-! ### Stray failures -/

/-- A failure that is neither reported in a provider's name nor one of a provider. -/
def Failure.IsStray (f : Failure) : Prop := f.isWrapped = false ∧ f.isCredentials = false

def Strays {α : Type} (r : Except Failure α) : Prop := ∃ f, r = .error f ∧ f.IsStray

/-- A failure that is reported in a provider's name, or is one of a provider. -/
def Failure.isHandled (f : Failure) : Bool := f.isWrapped || f.isCredentials

theorem strays_iff_not_failsOnly {α : Type} {r : Except Failure α} :
    Strays r ↔ ¬ FailsOnly Failure.isHandled r := by
  rw [failsOnly_iff_not_exists, Classical.not_not]
  simp only [Strays, Failure.IsStray, Failure.isHandled, Bool.or_eq_false_iff]

def Outcome.Strays {α : Type} (o : Outcome α) (operation : String) : Prop :=
  ∃ f, o = .error f ∧ (f operation).IsStray

section Strays

variable {α β : Type}

@[simp] theorem strays_ok (a : α) : ¬ Strays (.ok a) := by
  rintro ⟨f, h, _⟩
  cases h

@[simp] theorem strays_error (f : Failure) : Strays (.error f : Except Failure α) ↔ f.IsStray := by
  constructor
  · rintro ⟨g, h, hg⟩
    cases h
    exact hg
  · intro h
    exact ⟨f, rfl, h⟩

@[simp] theorem strays_map (g : α → β) (r : Except Failure α) : Strays (r.map g) ↔ Strays r := by
  cases r with
  | error f => rw [show (Except.error f : Except Failure α).map g = .error f from rfl,
      strays_error, strays_error]
  | ok a => exact iff_of_false (strays_ok _) (strays_ok a)

theorem not_strays_of_error {f : Failure} (h : ¬ Strays (.error f : Except Failure α)) :
    ¬ Strays (.error f : Except Failure β) := by
  rw [strays_error] at h
  rwa [strays_error]

theorem not_strays_bind {r : Except Failure α} {k : α → Except Failure β} (hr : ¬ Strays r)
    (hk : ∀ a, ¬ Strays (k a)) : ¬ Strays (r.bind k) := by
  cases r with
  | error f => exact not_strays_of_error hr
  | ok a => exact hk a

theorem not_strays_of_isWrapped {f : Failure} (h : f.isWrapped = true) :
    ¬ Strays (.error f : Except Failure α) := by
  rw [strays_error]
  rintro ⟨hw, _⟩
  rw [h] at hw
  cases hw

theorem Outcome.strays_ok (a : α) (operation : String) :
    ¬ Outcome.Strays (.ok a) operation := by
  rintro ⟨f, h, _⟩
  cases h

theorem Outcome.strays_error (f : String → Failure) (operation : String) :
    Outcome.Strays (.error f : Outcome α) operation ↔ (f operation).IsStray := by
  constructor
  · rintro ⟨g, h, hg⟩
    cases h
    exact hg
  · intro h
    exact ⟨f, rfl, h⟩

theorem not_strays_of_isCredentials {f : Failure} (h : f.isCredentials = true) :
    ¬ Strays (.error f : Except Failure α) := by
  rw [strays_error]
  rintro ⟨_, hc⟩
  rw [h] at hc
  cases hc

end Strays

/-! ### Expiries and deliveries -/

def ExpiryField.IsUnreadable (field : ExpiryField) : Prop := ∀ t, field.read ≠ .ok t

theorem readTime_isStray {d : Datum} {failure : Failure} (h : readTime d = .error failure) :
    failure.IsStray := by
  unfold readTime at h
  split at h
  · split at h
    · cases h
    · cases h
      exact ⟨rfl, rfl⟩
  · cases h
    exact ⟨rfl, rfl⟩

theorem ExpiryField.read_strays (field : ExpiryField) : Strays field.read ↔ field.IsUnreadable := by
  cases hr : field.read with
  | ok t => exact iff_of_false (strays_ok t) fun h => h t hr
  | error f =>
    rw [strays_error]
    refine iff_of_true ?_ fun t ht => by
      rw [hr] at ht
      cases ht
    cases field with
    | time t =>
      simp only [read] at hr
      split at hr
      · cases hr
      · cases hr
        exact ⟨rfl, rfl⟩
    | field d => exact readTime_isStray hr

/-- A delivery with all its fields whose expiry shows no time, has no offset, or is past. -/
def Delivery.IsUnusable (d : Delivery) (now : Int) : Prop :=
  ∃ keys field, d.parts? = some (keys, field) ∧ ∀ t, field.read = .ok t → ¬ t.IsAhead now

/-- The condition under which the use of a lease ends in a stray failure: its expiry has no offset;
or a renewal brings an unusable delivery; or a renewal that cannot be passed over brings a stray
failure. -/
def Lease.Breaks (l : Lease) (now : Int) (delivered : Except Failure Delivery) (strays : Prop) :
    Prop :=
  match l.need now with
  | .error _ => True
  | .ok .unneeded => False
  | .ok .advisory => ∃ d, delivered = .ok d ∧ d.IsUnusable now
  | .ok .mandatory => strays ∨ ∃ d, delivered = .ok d ∧ d.IsUnusable now

namespace Lease

theorem Storing.strays {method : String} {l : Lease} {d : Delivery} {now : Int}
    {r : Except Failure Unit × Lease} (hs : Storing method l d now r) :
    Strays r.1 ↔ d.IsUnusable now := by
  have unusable {keys : Keys} {field : ExpiryField} (hp : d.parts? = some (keys, field))
      (hr : ∀ t, field.read = .ok t → ¬ t.IsAhead now) : d.IsUnusable now := ⟨keys, field, hp, hr⟩
  cases hs with
  | incomplete hp =>
    refine iff_of_false (not_strays_of_isWrapped rfl) ?_
    rintro ⟨keys, field, hp', _⟩
    rw [hp] at hp'
    cases hp'
  | @unreadable keys field failure hp hr =>
    have hno : ∀ t, field.read ≠ .ok t := fun t ht => by
      rw [hr] at ht
      cases ht
    have hstray := field.read_strays.mpr hno
    rw [hr] at hstray
    obtain ⟨f, hf, hs⟩ := hstray
    cases hf
    exact iff_of_true ⟨failure, rfl, hs⟩ (unusable hp fun t ht => absurd ht (hno t))
  | @faulty keys field expiry failure hp hr hf =>
    have hs : failure.IsStray := by
      rcases fault?_cases hf with ⟨_, rfl⟩ | ⟨_, _, _, rfl⟩
      · exact ⟨rfl, rfl⟩
      · exact ⟨rfl, rfl⟩
    refine iff_of_true ⟨failure, rfl, hs⟩ (unusable hp ?_)
    intro t ht ha
    rw [hr] at ht
    cases ht
    rw [fault?_eq_none_iff.mpr ha] at hf
    cases hf
  | @stored keys field expiry hp hr hf =>
    refine iff_of_false (strays_ok _) ?_
    rintro ⟨keys', field', hp', hu⟩
    rw [hp] at hp'
    cases hp'
    exact hu expiry hr (fault?_eq_none_iff.mp hf)

theorem breaks_of_error {l : Lease} {now : Int} {failure : Failure} {strays : Prop}
    (h : l.need now = .error failure) (delivered : Except Failure Delivery) :
    l.Breaks now delivered strays := by
  unfold Breaks
  rw [h]
  trivial

/-- What was brought decides, in both kinds of renewal. -/
theorem breaks_of_delivery {l : Lease} {now : Int} {need : Need} {d : Delivery} {strays : Prop}
    (hn : l.need now = .ok need) (hu : need ≠ .unneeded) (hs : ¬ strays) :
    l.Breaks now (.ok d) strays ↔ d.IsUnusable now := by
  unfold Breaks
  rw [hn]
  cases need with
  | unneeded => exact absurd rfl hu
  | advisory => simp
  | mandatory => simp [hs]

theorem use_strays {σ : Type} (method : String) {clock : σ → Int}
    {fetch : σ → Except Failure Delivery × σ} {l : Lease} {s : σ} {strays : Prop}
    (hc : clock (fetch s).2 = clock s) (hs : Strays (fetch s).1 ↔ strays) :
    Strays (l.use method clock fetch s).1 ↔ l.Breaks (clock s) (fetch s).1 strays := by
  have hu := use_using method clock fetch l s
  generalize l.use method clock fetch s = r at hu
  cases hu with
  | unclear hn =>
    obtain ⟨_, rfl⟩ := need_error.mp hn
    exact iff_of_true ⟨_, rfl, rfl, rfl⟩ (breaks_of_error hn _)
  | kept hn =>
    obtain ⟨keys, hk, _⟩ := need_unneeded hn
    simp only [Breaks, hn, handOut, hk, strays_ok]
  | failed hn hf =>
    simp only [← hs, Breaks, hn, hf]
    simp
  | passedOver hn hf =>
    obtain ⟨keys, _, _, hk, _⟩ := need_advisory hn
    simp only [Breaks, hn, hf, handOut, hk, strays_ok]
    simp
  | @refused need d s' failure l' hn hu hf hst =>
    rw [hf] at hc hs
    rw [hf, breaks_of_delivery hn hu fun h => strays_ok d (hs.mpr h), ← hc, ← hst.strays]
    simp only [strays_error]
  | @renewed need d s' keys field expiry hn hu hf hp hr ha =>
    rw [hf] at hc hs
    have hst : Storing method l d (clock s') (.ok (), ⟨some keys, some expiry⟩) :=
      .stored hp hr (fault?_eq_none_iff.mpr ha)
    rw [hf, breaks_of_delivery hn hu fun h => strays_ok d (hs.mpr h), ← hc, ← hst.strays]
    exact iff_of_false (strays_ok _) (strays_ok _)

end Lease

/-! ### Instance metadata -/

namespace InstanceProfile

def requiredFields : List String :=
  ["role_name", "access_key", "secret_key", "token", "expiry_time"]

/-- The condition under which a look at the metadata ends in a stray failure: the service answers
with one, or a role that it names lacks a field or has an expiry that shows no time. -/
def LookBreaks (w : World) : Prop :=
  Outcome.Strays (w.metadata.next (.ok {})).1 "Operation" ∨
    ∃ fields, (query w).1 = .ok fields ∧ fields ≠ [] ∧
      ((∃ name ∈ requiredFields, fields.lookup name = none) ∨
        ∃ d, fields.lookup "expiry_time" = some d ∧ (ExpiryField.field d).IsUnreadable)

theorem query_strays (w : World) :
    Strays (query w).1 ↔ Outcome.Strays (w.metadata.next (.ok {})).1 "Operation" := by
  simp only [query]
  cases (w.metadata.next (.ok {})).1 with
  | error failure => rw [strays_error, Outcome.strays_error]
  | ok answer => exact iff_of_false (strays_ok _) (Outcome.strays_ok _ _)

theorem field_bind_strays {α : Type} (fields : List (String × Datum)) (name : String)
    (k : Datum → Except Failure α) :
    Strays (field fields name >>= k) ↔
      fields.lookup name = none ∨ ∃ d, fields.lookup name = some d ∧ Strays (k d) := by
  unfold field
  cases fields.lookup name with
  | none => exact iff_of_true ⟨_, rfl, rfl, rfl⟩ (.inl rfl)
  | some d =>
    constructor
    · intro h
      exact .inr ⟨d, rfl, h⟩
    · rintro (h | ⟨d', h, hs⟩)
      · cases h
      · cases h
        exact hs

theorem leaseOf_strays (fields : List (String × Datum)) :
    Strays (leaseOf fields) ↔ (∃ name ∈ requiredFields, fields.lookup name = none) ∨
      ∃ d, fields.lookup "expiry_time" = some d ∧ (ExpiryField.field d).IsUnreadable := by
  have constant (o : Option Datum) (P : Prop) :
      (o = none ∨ ∃ d, o = some d ∧ P) ↔ o = none ∨ P := by
    cases o <;> simp
  have read (d : Datum) (accessKey secretKey token : Datum) :
      Strays ((ExpiryField.field d).read >>= fun t => pure
        (⟨some ⟨accessKey, secretKey, token⟩, some t⟩ : Lease)) ↔
          (ExpiryField.field d).IsUnreadable := by
    rw [← ExpiryField.read_strays]
    exact strays_map _ _
  unfold leaseOf
  simp only [field_bind_strays, read, constant, requiredFields, List.mem_cons, List.not_mem_nil,
    or_false, exists_eq_or_imp, exists_eq_left, or_assoc]

theorem load_strays (w : World) : Strays (load w).1 ↔ LookBreaks w := by
  unfold load LookBreaks
  rw [← query_strays]
  rcases query w with ⟨answer, w'⟩
  cases answer with
  | error failure => simp
  | ok fields =>
    cases fields with
    | nil => simp
    | cons f rest =>
      show Strays ((leaseOf (f :: rest)).map some) ↔ _
      rw [strays_map, leaseOf_strays]
      constructor
      · intro h
        exact .inr ⟨_, rfl, List.cons_ne_nil _ _, h⟩
      · rintro (h | ⟨_, hf, _, h⟩)
        · exact absurd h (strays_ok _)
        · cases hf
          exact h

def UseBreaks (l : Lease) (w : World) : Prop :=
  l.Breaks w.clock (fetch w).1 (Outcome.Strays (w.metadata.next (.ok {})).1 "Operation")

theorem use_strays (l : Lease) (w : World) : Strays (use l w).1 ↔ UseBreaks l w := by
  refine Lease.use_strays method (fetch_grew w).1.clock ?_
  rw [← query_strays]
  unfold fetch
  rcases query w with ⟨answer, w'⟩
  cases answer with
  | error failure => simp only [strays_error]
  | ok fields => exact iff_of_false (strays_ok _) (strays_ok _)

end InstanceProfile

/-! ### Assumed roles -/

namespace AssumedRole

/-- The condition under which the way to a reply about a role ends in a stray failure: the token
file has a name that no file has, or is not UTF-8; or it can be read, and making a client ends in
one, or the token service answers with one. -/
def AskBreaks (r : AssumedRole) (client : World → Except Failure Client) (clientBreaks : Prop)
    (w : World) : Prop :=
  r.tokenFile.toList.contains (Char.ofNat 0) = true ∨
  (∃ content fault, w.files.read r.tokenFile = .ok content ∧
    Text.decodeUtf8 content = .error fault) ∨
  ∃ token, readToken w r.tokenFile = .ok token ∧ (clientBreaks ∨
    ∃ c, client w = .ok c ∧ Outcome.Strays (w.roles.next (.ok {})).1 operation)

/-- The condition under which a fetch of the keys of a role ends in a stray failure: it cannot be
told whether the reply that is kept serves, or it serves and lacks a part; or no reply serves, and
the way to a new one ends in a stray failure, or the new one lacks a part. -/
def FetchBreaks (r : AssumedRole) (client : World → Except Failure Client) (clientBreaks : Prop)
    (w : World) : Prop :=
  (∃ reply, r.stored = some reply ∧ ((∀ serves, reply.serves w.clock ≠ .ok serves) ∨
    reply.serves w.clock = .ok true ∧ reply.delivery.missing ≠ [])) ∨
  (∀ reply, r.stored = some reply → reply.serves w.clock = .ok false) ∧
    (r.AskBreaks client clientBreaks w ∨
      ∃ reply v, r.ask client w = (.ok reply, v) ∧ reply.delivery.missing ≠ [])

theorem readToken_strays (w : World) (file : String) :
    Strays (readToken w file) ↔ file.toList.contains (Char.ofNat 0) = true ∨
      ∃ content fault, w.files.read file = .ok content ∧
        Text.decodeUtf8 content = .error fault := by
  unfold readToken
  by_cases hn : file.toList.contains (Char.ofNat 0) = true
  · rw [if_pos hn]
    exact iff_of_true ⟨_, rfl, rfl, rfl⟩ (.inl hn)
  · rw [if_neg hn]
    cases hf : w.files.read file with
    | error fault =>
      refine iff_of_false (not_strays_of_isWrapped rfl) ?_
      rintro (h | ⟨_, _, h, _⟩)
      · exact hn h
      · cases h
    | ok content =>
      dsimp only
      cases hd : Text.decodeUtf8 content with
      | error fault => exact iff_of_true ⟨_, rfl, rfl, rfl⟩ (.inr ⟨content, fault, rfl, hd⟩)
      | ok cs =>
        refine iff_of_false (strays_ok _) ?_
        rintro (h | ⟨_, _, h, he⟩)
        · exact hn h
        · cases h
          rw [hd] at he
          cases he

theorem request_strays (r : AssumedRole) (token : String) (client : Client) (w : World) :
    Strays (r.request token client w).1 ↔
      Outcome.Strays (w.roles.next (.ok {})).1 operation := by
  simp only [request]
  cases (w.roles.next (.ok {})).1 with
  | error failure => rw [strays_error, Outcome.strays_error]
  | ok answer => exact iff_of_false (strays_ok _) (Outcome.strays_ok _ _)

variable (r : AssumedRole) {client : World → Except Failure Client} {clientBreaks : Prop}
  {w : World}

theorem ask_strays (hc : Strays (client w) ↔ clientBreaks) :
    Strays (r.ask client w).1 ↔ r.AskBreaks client clientBreaks w := by
  have hread := readToken_strays w r.tokenFile
  unfold ask AskBreaks
  rw [← or_assoc, ← hread, ← hc]
  cases readToken w r.tokenFile with
  | error failure => simp
  | ok token =>
    cases client w with
    | error failure => simp
    | ok c => simp [request_strays]

theorem unpack_strays (reply : RoleReply) : Strays reply.unpack ↔ reply.delivery.missing ≠ [] := by
  by_cases hm : reply.delivery.missing = []
  · refine iff_of_false ?_ fun h => h hm
    rw [RoleReply.unpack, RoleReply.missing?_eq_none_iff.mpr hm]
    exact strays_ok _
  · obtain ⟨_, _, hu⟩ := RoleReply.unpack_of_missing hm
    rw [hu]
    exact iff_of_true ⟨_, rfl, rfl, rfl⟩ hm

/-- A fetch with no reply that serves. -/
theorem fetch_of_unserved (hs : ∀ reply, r.stored = some reply → reply.serves w.clock = .ok false)
    (hc : Strays (client w) ↔ clientBreaks) :
    Strays (r.fetch client (r.stored, w)).1 ↔ r.AskBreaks client clientBreaks w ∨
      ∃ reply v, r.ask client w = (.ok reply, v) ∧ reply.delivery.missing ≠ [] := by
  have hnone : RoleReply.serving? r.stored w.clock = .ok none := by
    cases hstored : r.stored with
    | none => rfl
    | some reply => simp [RoleReply.serving?, hs reply hstored, Except.map]
  rw [← r.ask_strays hc]
  simp only [fetch, hnone]
  rcases r.ask client w with ⟨failure | reply, v⟩
  · simp
  · simp [unpack_strays]

theorem fetch_strays (hc : Strays (client w) ↔ clientBreaks) :
    Strays (r.fetch client (r.stored, w)).1 ↔ r.FetchBreaks client clientBreaks w := by
  unfold FetchBreaks
  by_cases hs : ∀ reply, r.stored = some reply → reply.serves w.clock = .ok false
  · rw [r.fetch_of_unserved hs hc, and_iff_right hs, iff_or_self]
    rintro ⟨reply, hr, hunclear | ⟨hserves, _⟩⟩
    · exact absurd (hs reply hr) (hunclear false)
    · rw [hs reply hr] at hserves
      cases hserves
  · rw [or_iff_left fun h => hs h.1]
    cases hstored : r.stored with
    | none => exact absurd (fun _ h => by rw [hstored] at h; cases h) hs
    | some reply =>
      cases hserves : reply.serves w.clock with
      | error failure =>
        refine iff_of_true ?_ ⟨reply, rfl, .inl fun _ h => ?_⟩
        · simp only [fetch, RoleReply.serving?, hserves, Except.map, strays_error]
          rcases RoleReply.serves_error hserves with ⟨_, rfl⟩ | ⟨_, rfl⟩ | ⟨_, rfl⟩
          all_goals exact ⟨rfl, rfl⟩
        · rw [hserves] at h
          cases h
      | ok serves =>
        cases serves with
        | false =>
          refine absurd (fun other h => ?_) hs
          rw [hstored] at h
          cases h
          exact hserves
        | true =>
          simp only [fetch, RoleReply.serving?, hserves, Except.map, if_true]
          rw [unpack_strays]
          constructor
          · intro hm
            exact ⟨reply, rfl, .inr ⟨hserves, hm⟩⟩
          · rintro ⟨_, h, hunclear | ⟨_, hm⟩⟩
            · cases h
              exact absurd hserves (hunclear true)
            · cases h
              exact hm

def UseBreaks (r : AssumedRole) (client : World → Except Failure Client) (clientBreaks : Prop)
    (w : World) : Prop :=
  r.lease.Breaks w.clock (r.fetch client (r.stored, w)).1 (r.FetchBreaks client clientBreaks w)

theorem use_strays (hc : Strays (client w) ↔ clientBreaks) :
    Strays (r.use client w).1 ↔ r.UseBreaks client clientBreaks w := by
  have hclock : Keeping.clock (r.fetch client (r.stored, w)).2 = Keeping.clock (r.stored, w) := by
    obtain ⟨_, hg, _⟩ := r.fetch_grew client (r.stored, w)
    exact hg.clock
  exact Lease.use_strays method hclock (r.fetch_strays hc)

end AssumedRole

theorem WebIdentity.load_strays (p : WebIdentity) (w : World) :
    Strays (p.load w) ↔ w.webIdentity = false := by
  unfold load
  cases w.webIdentity with
  | false => exact iff_of_true ⟨_, rfl, rfl, rfl⟩ rfl
  | true =>
    refine iff_of_false ?_ Bool.noConfusion
    rw [if_neg (by decide)]
    split
    · exact not_strays_of_isCredentials rfl
    · split
      · exact not_strays_of_isCredentials rfl
      · exact strays_ok _

/-! ### Profiles -/

namespace ProfileFile

theorem readSections_strays (w : World) (name : String) : ¬ Strays (readSections w name) := by
  unfold readSections
  dsimp only
  split
  · exact strays_ok _
  · split
    · exact strays_ok _
    · exact not_strays_of_isWrapped rfl

theorem keysIn_strays (origin profile : String) (sections : Option Sections) :
    ¬ Strays (keysIn origin profile sections) := by
  unfold keysIn
  split
  · exact strays_ok _
  · split
    · exact strays_ok _
    · unfold keysOf
      split
      · exact strays_ok _
      · split
        · exact not_strays_of_isWrapped rfl
        · exact strays_ok _

theorem credentialsFileKeys_strays (w : World) (file profile : String) :
    ¬ Strays (credentialsFileKeys w file profile) :=
  not_strays_bind (readSections_strays w file) (keysIn_strays _ _)

theorem configFileKeys_strays (w : World) (file profile : String) :
    ¬ Strays (configFileKeys w file profile) :=
  not_strays_bind (readSections_strays w file) fun _ => keysIn_strays _ _ _

end ProfileFile

/-- A look for a profile ends in a stray failure only when the default files are not known because
there is no home directory. -/
theorem NamedProfile.load_strays (p : NamedProfile) (w : World) :
    Strays (p.load w).1 ↔ p.path = none ∧
      (w.environment.defaultCredentialsFile = none ∨ w.environment.defaultConfigFile = none) := by
  unfold load
  cases hp : p.path with
  | some path =>
    refine iff_of_false ?_ (by simp)
    dsimp only [loadFrom]
    split
    · have hk := ProfileFile.credentialsFileKeys_strays w path.text p.profile
      split
      · rename_i failure he
        rw [he] at hk
        exact hk
      · exact strays_ok _
      · exact strays_ok _
    · exact not_strays_of_isCredentials rfl
  | none =>
    dsimp only [loadDefault]
    cases hc : w.environment.defaultCredentialsFile with
    | none => exact iff_of_true ⟨_, rfl, rfl, rfl⟩ ⟨rfl, .inl rfl⟩
    | some credentialsFile =>
      cases hg : w.environment.defaultConfigFile with
      | none => exact iff_of_true ⟨_, rfl, rfl, rfl⟩ ⟨rfl, .inr rfl⟩
      | some configFile =>
        refine iff_of_false ?_ (by simp)
        dsimp only
        have hk := ProfileFile.credentialsFileKeys_strays w credentialsFile.text p.profile
        split
        · rename_i failure he
          rw [he] at hk
          exact hk
        · exact strays_ok _
        · have hk' := ProfileFile.configFileKeys_strays w configFile.text p.profile
          split
          · rename_i failure he
            rw [he] at hk'
            exact hk'
          · exact strays_ok _
          · exact strays_ok _

end CloudCredentials
