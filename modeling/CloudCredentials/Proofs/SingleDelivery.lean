import CloudCredentials.Proofs.ProviderRun

/-!
# Keys and expiry come from one delivery

Sources that renew their keys hand out what one delivery has brought: the keys and the time at
which they expire are those of the last outcome that had all its fields and a time that can be
read. Outcomes that are failures, that lack a field or show no time leave no trace in them.
-/

namespace CloudCredentials

/-! ### What deliveries bring -/

/-- An outcome from which keys can be taken. -/
def IsUsable (outcome : Except Failure Delivery) : Prop :=
  ∃ d keys t, outcome = .ok d ∧ d.Brings keys t

/-- The keys and the time are those of the last outcome from which keys can be taken. -/
def AreLatest (outcomes : List (Except Failure Delivery)) (keys : Keys) (t : Time.Timestamp) :
    Prop :=
  ∃ earlier d later, outcomes = earlier ++ .ok d :: later ∧ d.Brings keys t ∧
    ∀ o ∈ later, ¬ IsUsable o

namespace AreLatest

variable {outcomes more : List (Except Failure Delivery)} {keys : Keys} {t : Time.Timestamp}

theorem append (h : AreLatest outcomes keys t) (hm : ∀ o ∈ more, ¬ IsUsable o) :
    AreLatest (outcomes ++ more) keys t := by
  obtain ⟨earlier, d, later, rfl, hd, hl⟩ := h
  refine ⟨earlier, d, later ++ more, by simp, hd, ?_⟩
  intro o ho
  rcases List.mem_append.mp ho with ho | ho
  · exact hl o ho
  · exact hm o ho

theorem of_last {d : Delivery} (h : d.Brings keys t) (outcomes : List (Except Failure Delivery)) :
    AreLatest (outcomes ++ [.ok d]) keys t :=
  ⟨outcomes, d, [], rfl, h, fun o ho => by cases ho⟩

end AreLatest

/-! ### Leases -/

namespace Lease

/-- What a lease holds is what the last usable outcome has brought. -/
def Follows (l : Lease) (outcomes : List (Except Failure Delivery)) : Prop :=
  ∀ keys, l.keys = some keys → ∃ t, l.expiry = some t ∧ AreLatest outcomes keys t

variable {l : Lease} {outcomes more : List (Except Failure Delivery)}

theorem Follows.append (h : l.Follows outcomes) (hm : ∀ o ∈ more, ¬ IsUsable o) :
    l.Follows (outcomes ++ more) := by
  intro keys hk
  obtain ⟨t, ht, hl⟩ := h keys hk
  exact ⟨t, ht, hl.append hm⟩

end Lease

/-! ### Fetches -/

/-- What a fetch brings is in step with the outcomes of its own calls and those before: keys are the
latest of all, and where the fetch has none its calls had none. -/
structure Brought (outcomes own : List (Except Failure Delivery))
    (result : Except Failure Delivery) : Prop where
  latest : ∀ d keys t, result = .ok d → d.Brings keys t → AreLatest (outcomes ++ own) keys t
  unusable : ¬ IsUsable result → ∀ o ∈ own, ¬ IsUsable o

theorem brought_of_call (outcomes : List (Except Failure Delivery))
    (result : Except Failure Delivery) : Brought outcomes [result] result where
  latest d keys t hd hb := by
    rw [hd]
    exact .of_last hb outcomes
  unusable h o ho := by
    rw [List.mem_singleton.mp ho]
    exact h

theorem brought_of_error (outcomes : List (Except Failure Delivery)) (failure : Failure) :
    Brought outcomes [] (.error failure) where
  latest _ _ _ hd := by cases hd
  unusable _ _ ho := by cases ho

/-- A use leaves things as they are, or the lease follows what the fetch has brought. -/
theorem Lease.use_follows {σ : Type} (method : String) (clock : σ → Int)
    {fetch : σ → Except Failure Delivery × σ} {l : Lease} {s : σ}
    {outcomes own : List (Except Failure Delivery)} (hb : Brought outcomes own (fetch s).1)
    (h : l.Follows outcomes) :
    (l.use method clock fetch s).2 = (l, s) ∨
      (l.use method clock fetch s).2.2 = (fetch s).2 ∧
        (l.use method clock fetch s).2.1.Follows (outcomes ++ own) := by
  by_cases hdue : l.IsDue (clock s)
  · refine .inr ⟨use_of_isDue hdue, ?_⟩
    by_cases husable : IsUsable (fetch s).1
    · obtain ⟨d, keys, t, hd, hbrings⟩ := husable
      rw [use_of_brings hdue (Prod.ext (y := (_, (fetch s).2)) hd rfl) hbrings]
      intro keys' hk
      cases hk
      exact ⟨t, rfl, hb.latest d keys t hd hbrings⟩
    · rcases use_lease method clock fetch l s with hl | ⟨d, keys, t, hd, hbrings, _⟩
      · rw [hl]
        exact h.append (hb.unusable husable)
      · exact absurd ⟨d, keys, t, congrArg Prod.fst hd, hbrings⟩ husable
  · exact .inl (use_of_not_isDue hdue)

/-! ### The two kinds of sources -/

namespace AssumedRole

/-- The keys of a role are the latest, and it is in step with the reply that it keeps. -/
structure Follows (r : AssumedRole) (outcomes : List (Except Failure Delivery)) : Prop where
  lease : r.lease.Follows outcomes
  inStep : r.InStep

variable {r : AssumedRole} {outcomes : List (Except Failure Delivery)}

theorem Follows.fetch (h : r.Follows outcomes) (client : World → Except Failure Client)
    (w : World) : ∃ own, w.Grew own (r.fetch client (r.stored, w)).2.2 ∧
      Brought outcomes (w.deliveries own) (r.fetch client (r.stored, w)).1 := by
  have hf := r.fetch_fetching client (r.stored, w)
  generalize hresult : r.fetch client (r.stored, w) = result at hf
  generalize hstored : r.stored = stored at hf
  cases hf with
  | unclear _ | unasked _ _ => exact ⟨[], .refl w, brought_of_error outcomes _⟩
  | served _ =>
    refine ⟨[], .refl w, ⟨fun d keys t hd hb => ?_, fun _ _ ho => by cases ho⟩⟩
    -- what a kept reply brings again the role holds already, so it is the latest
    rw [show w.deliveries [] = [] from rfl, List.append_nil]
    rw [(RoleReply.unpack_ok hd).1] at hb
    obtain ⟨t', ht, hlatest⟩ := h.lease keys (by rw [h.inStep _ keys t hstored hb])
    rw [h.inStep _ keys t hstored hb] at ht
    cases ht
    exact hlatest
  | failed _ _ _ hg hd =>
    refine ⟨_, hg, ?_⟩
    rw [hd]
    exact brought_of_call outcomes _
  | answered _ _ _ hg hd =>
    refine ⟨_, hg, ?_⟩
    rw [hd]
    refine ⟨fun d keys t hu hb => ?_, fun hno o ho => ?_⟩
    · rw [← (RoleReply.unpack_ok hu).1]
      exact .of_last hb outcomes
    · rw [List.mem_singleton.mp ho]
      rintro ⟨d, keys, t, hd', hb⟩
      cases hd'
      exact hno ⟨_, keys, t, RoleReply.unpack_of_brings hb, hb⟩

/-- Using a role keeps it in step with the outcomes. -/
theorem Follows.use (h : r.Follows outcomes) (client : World → Except Failure Client) (w : World) :
    ∃ own, w.Grew own (r.use client w).2.2 ∧
      (r.use client w).2.1.Follows (outcomes ++ w.deliveries own) := by
  obtain ⟨own, hg, hb⟩ := h.fetch client w
  have hlease : (r.use client w).2.1.lease =
      (r.lease.use method Keeping.clock (r.fetch client) (r.stored, w)).2.1 := rfl
  have hworld : (r.use client w).2.2 =
      (r.lease.use method Keeping.clock (r.fetch client) (r.stored, w)).2.2.2 := rfl
  rcases Lease.use_follows method Keeping.clock hb h.lease with hkept | ⟨hs, hl⟩
  · refine ⟨[], ?_, ?_, h.inStep.use client w⟩
    · rw [hworld, hkept]
      exact .refl w
    · rw [hlease, hkept, show w.deliveries [] = [] from rfl, List.append_nil]
      exact h.lease
  · refine ⟨own, ?_, ?_, h.inStep.use client w⟩
    · rw [hworld, hs]
      exact hg
    · rw [hlease]
      exact hl

end AssumedRole

namespace InstanceProfile

theorem field_bind_ok {α : Type} {fields : List (String × Datum)} {name : String}
    {k : Datum → Except Failure α} {a : α} (h : (field fields name >>= k) = .ok a) :
    ∃ d, fields.lookup name = some d ∧ k d = .ok a := by
  unfold field at h
  cases hl : fields.lookup name with
  | none =>
    rw [hl] at h
    cases h
  | some d =>
    rw [hl] at h
    exact ⟨d, rfl, h⟩

theorem leaseOf_brings {fields : List (String × Datum)} {l : Lease} (h : leaseOf fields = .ok l) :
    ∃ keys t, (Delivery.ofFields fields).Brings keys t ∧ l = ⟨some keys, some t⟩ := by
  unfold leaseOf at h
  obtain ⟨_, _, h⟩ := field_bind_ok h
  obtain ⟨accessKey, ha, h⟩ := field_bind_ok h
  obtain ⟨secretKey, hs, h⟩ := field_bind_ok h
  obtain ⟨token, ht, h⟩ := field_bind_ok h
  obtain ⟨expiry, he, h⟩ := field_bind_ok h
  cases hr : (ExpiryField.field expiry).read with
  | error failure =>
    rw [hr] at h
    cases h
  | ok t =>
    rw [hr] at h
    cases h
    have hparts : (Delivery.ofFields fields).parts? =
        some (⟨accessKey, secretKey, token⟩, .field expiry) := by
      simp only [Delivery.parts?, Delivery.ofFields, ha, hs, ht, he, Option.map_some]
    exact ⟨_, t, ⟨_, hparts, hr⟩, rfl⟩

/-- The lease that a look at the metadata finds is what the answer has brought. -/
theorem load_brings {w v : World} {l : Lease} (h : load w = (.ok (some l), v)) :
    ∃ d keys t, (fetch w).1 = .ok d ∧ d.Brings keys t ∧ l = ⟨some keys, some t⟩ := by
  unfold load at h
  unfold fetch
  rcases hq : query w with ⟨answer, w'⟩
  rw [hq] at h
  cases answer with
  | error failure => cases h
  | ok fields =>
    dsimp only at h ⊢
    split at h
    · cases h
    · cases hl : leaseOf fields with
      | error failure =>
        rw [hl] at h
        cases h
      | ok found =>
        rw [hl] at h
        cases h
        obtain ⟨keys, t, hb, rfl⟩ := leaseOf_brings hl
        exact ⟨_, keys, t, rfl, hb, rfl⟩

theorem load_follows {w v : World} {l : Lease} (h : load w = (.ok (some l), v))
    (outcomes : List (Except Failure Delivery)) :
    l.Follows (outcomes ++ w.deliveries [.metadata]) := by
  obtain ⟨d, keys, t, hd, hb, rfl⟩ := load_brings h
  rw [(fetch_grew w).2, hd]
  intro keys' hk
  cases hk
  exact ⟨t, rfl, .of_last hb outcomes⟩

theorem use_follows {l : Lease} {outcomes : List (Except Failure Delivery)}
    (h : l.Follows outcomes) (w : World) : ∃ own, w.Grew own (use l w).2.2 ∧
      (use l w).2.1.Follows (outcomes ++ w.deliveries own) := by
  obtain ⟨hg, hd⟩ := fetch_grew w
  have hb : Brought outcomes [(fetch w).1] (fetch w).1 := brought_of_call outcomes _
  unfold use
  rcases Lease.use_follows method World.clock hb h with hkept | ⟨hs, hl⟩
  · rw [hkept]
    refine ⟨[], .refl w, ?_⟩
    rw [show w.deliveries [] = [] from rfl, List.append_nil]
    exact h
  · rw [← hd] at hl
    rw [hs]
    exact ⟨_, hg, hl⟩

end InstanceProfile

/-! ### Sources under watch -/

theorem WebIdentity.load_unfetched {p : WebIdentity} {w : World} {r : AssumedRole}
    (h : p.load w = .ok r) : r.lease = {} ∧ r.stored = none := by
  unfold load at h
  split at h
  · cases h
  · split at h
    · cases h
    · split at h
      · cases h
      · cases h
        exact ⟨rfl, rfl⟩

theorem WebIdentity.load_follows {p : WebIdentity} {w : World} {r : AssumedRole}
    (h : p.load w = .ok r) (outcomes : List (Except Failure Delivery)) : r.Follows outcomes := by
  obtain ⟨hlease, hstored⟩ := load_unfetched h
  refine ⟨fun keys hk => ?_, AssumedRole.inStep_of_unkept hstored⟩
  rw [hlease] at hk
  cases hk

namespace Source

/-- A source that renews its keys, when it has been made. -/
inductive Renewing : Source → Prop
  | metadata : Renewing ofInstance
  | webIdentity (parameters : WebIdentity) (interval : Int) :
    Renewing (ofWebIdentity parameters interval)

/-- The keys that a source holds, if it does, are those of the last usable outcome. -/
def Follows : Source → List (Except Failure Delivery) → Prop
  | .instanceProfile state, outcomes => ∀ l, state.held = some l → l.Follows outcomes
  | .webIdentity state _, outcomes => ∀ r, state.held = some r → r.Follows outcomes
  | _, _ => False

theorem Renewing.follows {s : Source} (h : s.Renewing) : s.Follows [] := by
  cases h with
  | metadata =>
    intro l hl
    cases hl
  | webIdentity parameters interval =>
    intro r hr
    cases hr

end Source

/-- The answer is a failure, or keys and an expiration that the last usable outcome has brought. -/
def AnswerFollows (answer : Except Failure Credentials)
    (outcomes : List (Except Failure Delivery)) : Prop :=
  ∀ c, answer = .ok c → ∃ t, c.expiration = some t ∧ AreLatest outcomes c.keys t

/-- A source that loads once keeps in step with the outcomes when its looks and its uses do. -/
theorem Backed.ask_follows {σ η : Type} {b : Backing σ η} {name shown : String} {p : Backed σ η}
    {w : World} {F : η → List (Except Failure Delivery) → Prop}
    {outcomes : List (Except Failure Delivery)}
    (load : ∀ parameters w, ∃ own, w.Grew own (b.load parameters w).2.2 ∧
      ∀ held, (b.load parameters w).1 = .ok (some held) → F held (outcomes ++ w.deliveries own))
    (use : ∀ held w outcomes, F held outcomes → ∃ own, w.Grew own (b.use held w).2.2 ∧
      F (b.use held w).2.1 (outcomes ++ w.deliveries own) ∧
      ∀ keys, (b.use held w).1 = .ok keys → ∃ t, b.expiration (b.use held w).2.1 = some t ∧
        AreLatest (outcomes ++ w.deliveries own) keys t)
    (h : ∀ held, p.held = some held → F held outcomes) :
    ∃ own, w.Grew own (p.ask b name shown w).2.2 ∧
      (∀ held, (p.ask b name shown w).2.1.held = some held →
        F held (outcomes ++ w.deliveries own)) ∧
      AnswerFollows (p.ask b name shown w).1 (outcomes ++ w.deliveries own) := by
  have looked {found : Except Failure (Option η)} {parameters : σ} {v : World}
      (hl : b.load p.parameters (looking shown w) = (found, parameters, v)) :
      ∃ own, w.Grew own v ∧ ∀ held, found = .ok (some held) →
        F held (outcomes ++ w.deliveries own) := by
    obtain ⟨own, hg, hf⟩ := load p.parameters (looking shown w)
    rw [hl] at hg hf
    have hlook : w.Grew [] (looking shown w) := (World.Grew.refl w).record ..
    have hd : w.deliveries own = (looking shown w).deliveries own :=
      hlook.deliveries_append own
    exact ⟨own, hlook.trans hg, fun held hh => by rw [hd]; exact hf held hh⟩
  have ha := ask_asked b name shown p w
  generalize p.ask b name shown w = r at ha
  cases ha with
  | failed _ hl =>
    obtain ⟨own, hg, _⟩ := looked hl
    refine ⟨own, hg, ?_, ?_⟩
    · intro held hh
      cases hh
    · intro c hc
      cases hc
  | absent _ hl =>
    obtain ⟨own, hg, _⟩ := looked hl
    refine ⟨own, hg, ?_, ?_⟩
    · intro held hh
      cases hh
    · intro c hc
      cases hc
  | @used held held' parameters v w' answer hh hu =>
    have hbefore : ∃ own, w.Grew own v ∧ F held (outcomes ++ w.deliveries own) := by
      cases hh with
      | held hp =>
        refine ⟨[], .refl w, ?_⟩
        rw [show w.deliveries [] = [] from rfl, List.append_nil]
        exact h held hp
      | found _ hl =>
        obtain ⟨own, hg, hf⟩ := looked hl
        exact ⟨own, hg, hf held rfl⟩
    obtain ⟨before, hg, hf⟩ := hbefore
    obtain ⟨own, hg', hf', hanswer⟩ := use held v _ hf
    rw [hu] at hg' hf' hanswer
    rw [List.append_assoc, ← hg.deliveries_append] at hf' hanswer
    refine ⟨before ++ own, hg.trans hg', ?_, ?_⟩
    · intro x hx
      cases hx
      exact hf'
    · intro c hc
      cases answer with
      | error failure => cases hc
      | ok keys =>
        obtain ⟨t, ht, hlatest⟩ := hanswer keys rfl
        simp only [answerOf, credentials] at hc
        split at hc
        · cases hc
          exact ⟨t, ht, hlatest⟩
        · cases hc

namespace Source

theorem ask_follows {s : Source} {outcomes : List (Except Failure Delivery)}
    (h : s.Follows outcomes) (w : World) :
    ∃ own, w.Grew own (s.ask w).2.2 ∧ (s.ask w).2.1.Follows (outcomes ++ w.deliveries own) ∧
      AnswerFollows (s.ask w).1 (outcomes ++ w.deliveries own) := by
  cases s with
  | instanceProfile state =>
    refine Backed.ask_follows (b := InstanceProfile.backing) (F := Lease.Follows) ?_ ?_ h
    · intro _ w
      refine ⟨_, InstanceProfile.load_grew w, fun l hl => ?_⟩
      exact InstanceProfile.load_follows (Prod.ext hl rfl) outcomes
    · intro l w outcomes hl
      obtain ⟨own, hg, hf⟩ := InstanceProfile.use_follows hl w
      refine ⟨own, hg, hf, fun keys hkeys => hf keys ?_⟩
      exact Lease.keys_of_use (Prod.ext (y := (Except.ok keys, _, _)) hkeys rfl)
  | webIdentity state refresher =>
    refine Backed.ask_follows (b := WebIdentity.backing state.parameters.client)
      (F := AssumedRole.Follows) ?_ ?_ h
    · intro p w
      refine ⟨[], .refl w, fun r hr => ?_⟩
      simp only [WebIdentity.backing] at hr
      cases hp : p.load w with
      | error failure =>
        rw [hp] at hr
        cases hr
      | ok found =>
        rw [hp] at hr
        cases hr
        exact WebIdentity.load_follows hp _
    · intro r w outcomes hr
      obtain ⟨own, hg, hf⟩ := hr.use (fun _ => .ok state.parameters.client) w
      refine ⟨own, hg, hf, fun keys hkeys => hf.lease keys ?_⟩
      exact Lease.keys_of_use (Prod.ext (y := (Except.ok keys, _, _)) hkeys rfl)
  | fixed _ | profile _ | standard _ | scripted _ _ => exact h.elim

end Source

/-! ### Turns -/

/-- A turn of a source: its surroundings change in any way, and then a caller asks it or its
background task does. -/
structure Turn where
  change : World → World
  background : Bool

/-- A source in its world, and all that the services have delivered to it. -/
structure Watched where
  source : Source
  world : World
  outcomes : List (Except Failure Delivery) := []

namespace Watched

def turn (s : Watched) (t : Turn) : Watched :=
  let w := t.change s.world
  let (source, v) := if t.background then s.source.tick w else (s.source.ask w).2
  ⟨source, v, s.outcomes ++ w.delivered v⟩

def run (s : Watched) (turns : List Turn) : Watched := turns.foldl turn s

/-- The worlds in which the source is asked, one for each turn. -/
def asked (s : Watched) : List Turn → List World
  | [] => []
  | t :: rest => t.change s.world :: (s.turn t).asked rest

theorem asked_concat (s : Watched) (turns : List Turn) (t : Turn) :
    s.asked (turns ++ [t]) = s.asked turns ++ [t.change (s.run turns).world] := by
  induction turns generalizing s with
  | nil => rfl
  | cons first rest ih => exact congrArg (first.change s.world :: ·) (ih (s.turn first))

theorem turn_follows {s : Watched} (h : s.source.Follows s.outcomes) (t : Turn) :
    (s.turn t).source.Follows (s.turn t).outcomes := by
  obtain ⟨own, hg, hf, _⟩ := Source.ask_follows h (t.change s.world)
  have asked {source : Source} {v : World} (hs : source = (s.source.ask (t.change s.world)).2.1)
      (hv : (s.source.ask (t.change s.world)).2.2.Logged v) :
      source.Follows (s.outcomes ++ (t.change s.world).delivered v) := by
    obtain ⟨log, rfl⟩ := hv
    have hg' : (t.change s.world).Grew own
        { (s.source.ask (t.change s.world)).2.2 with log } := by
      obtain ⟨_, he⟩ := hg
      exact ⟨log, by rw [he]⟩
    rw [hg'.delivered, hs]
    exact hf
  unfold turn
  cases t.background with
  | false => exact asked rfl (.refl _)
  | true =>
    rcases s.source.tick_source (t.change s.world) with ⟨hs, hw⟩ | ⟨hs, hw⟩
    · simp only [if_true, hs, hw]
      rw [(World.Grew.refl _).delivered]
      exact (List.append_nil s.outcomes).symm ▸ h
    · exact asked hs hw

theorem run_follows {s : Watched} (h : s.source.Follows s.outcomes) (turns : List Turn) :
    (s.run turns).source.Follows (s.run turns).outcomes := by
  induction turns generalizing s with
  | nil => exact h
  | cons t rest ih => exact ih (turn_follows h t)

end Watched

/-- Whatever turns a source that renews its keys has taken, credentials that it hands out next
have keys and an expiration that one outcome has brought, the last usable one so far. -/
theorem Source.ask_latest {s : Source} (hs : s.Renewing) (turns : List Turn) (w v : World)
    {c : Credentials} (hc : ((Watched.run ⟨s, w, []⟩ turns).source.ask v).1 = .ok c) :
    ∃ t, c.expiration = some t ∧
      AreLatest ((Watched.run ⟨s, w, []⟩ turns).outcomes ++
        v.delivered ((Watched.run ⟨s, w, []⟩ turns).source.ask v).2.2) c.keys t := by
  have hf := Watched.run_follows (s := ⟨s, w, []⟩) hs.follows turns
  obtain ⟨own, hg, _, hanswer⟩ := ask_follows hf v
  rw [hg.delivered]
  exact hanswer c hc

def World.metadataKeys : Keys := ⟨.text "ASIAFIRST", .text "first-secret", .text "first-token"⟩

/-- The metadata service gives keys once; then their time cannot be read, then there is no token,
and then it fails. -/
def World.ofMetadata : World where
  metadata :=
    [.ok { fields := [("role_name", .text "app"), ("access_key", .text "ASIAFIRST"),
        ("secret_key", .text "first-secret"), ("token", .text "first-token"),
        ("expiry_time", .text "1970-01-01T01:00:00Z")] },
      .ok { fields := [("access_key", .text "ASIASECOND"), ("secret_key", .text "second-secret"),
        ("token", .text "second-token"), ("expiry_time", .text "soon")] },
      .ok { fields := [("access_key", .text "ASIATHIRD"), ("secret_key", .text "third-secret"),
        ("expiry_time", .text "1970-01-01T02:00:00Z")] },
      .error fun _ => .metadata "no role"]

set_option maxRecDepth 20000 in
/-- Three outcomes after the first one leave the keys and their expiration as they are. -/
theorem Source.ask_latest_metadata :
    let s := Watched.run ⟨.ofInstance, .ofMetadata, []⟩
      [⟨id, false⟩, ⟨(·.advance 2800000000), false⟩, ⟨id, true⟩, ⟨id, false⟩]
    ∃ c, (s.source.ask s.world).1 = .ok c ∧ c.keys = World.metadataKeys ∧
      s.outcomes.length = 3 ∧ ∃ t, c.expiration = some t ∧
        AreLatest (s.outcomes ++ s.world.delivered (s.source.ask s.world).2.2) c.keys t := by
  intro s
  have hc : (s.source.ask s.world).1 = .ok ⟨World.metadataKeys,
      some ⟨3600000000, some 0⟩, some InstanceProfile.name⟩ := by rfl
  exact ⟨_, hc, rfl, rfl, ask_latest .metadata _ _ _ hc⟩

end CloudCredentials
