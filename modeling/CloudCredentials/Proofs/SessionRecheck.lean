import CloudCredentials.Proofs.SessionCache
import CloudCredentials.Provider.Source

/-!
# How long a session uses keys without an expiry

Keys without an expiry reach a session in two ways. Those that a renewal brings are given an hour;
those that the session was loaded with are kept, and the provider is not asked again. Which of the
two it was is a matter of the answers so far: the history below follows what each of them makes the
session hold.

A provider may take its time to answer. What counts is when the answer is there.
-/

namespace CloudCredentials.Session

open Time

variable {σ : Type}

/-! ### Answers with their dates -/

/-- A provider whose answers are noted with the time at which they are there. -/
def dated (ask : Asking σ) : Asking (σ × List Note) := fun p w =>
  let (answer, q, v) := ask p.1 w
  (answer, (q, p.2 ++ [⟨v.clock, answer⟩]), v)

/-- An answer that a session takes over: credentials whose expiration, if any, is readable in its
written form. -/
def Note.IsStored (n : Note) : Prop := ∃ held, n.answer.bind keysOf = .ok held

/-- The keys that a session hands out if it does not renew them. -/
def SessionKeys.current : SessionKeys → Option Keys
  | .fixed keys => some keys
  | .leased lease => lease.keys

theorem Note.not_isStored_error {n : Note} {f : Failure} (h : n.answer = .error f) :
    ¬ n.IsStored := by
  rintro ⟨held, hh⟩
  rw [h] at hh
  cases hh

theorem Note.isStored_of_none {n : Note} {c : Credentials} (h : n.answer = .ok c)
    (hc : c.expiration = none) : n.IsStored :=
  ⟨.fixed c.keys, by simp only [h, Except.bind, keysOf, hc]⟩

theorem Note.isStored_of_some {n : Note} {c : Credentials} {t t' : Timestamp}
    (h : n.answer = .ok c) (hc : c.expiration = some t) (hr : (written t).read = .ok t') :
    n.IsStored :=
  ⟨.leased ⟨some c.keys, some t'⟩, by simp only [h, Except.bind, keysOf, hc, hr, Except.map]⟩

theorem Note.not_isStored_unreadable {n : Note} {c : Credentials} {t : Timestamp} {f : Failure}
    (h : n.answer = .ok c) (hc : c.expiration = some t) (hr : (written t).read = .error f) :
    ¬ n.IsStored := by
  rintro ⟨held, hh⟩
  simp only [h, Except.bind, keysOf, hc, hr, Except.map] at hh
  cases hh

/-! ### What the answers make a session hold -/

/-- What an answer makes of the keys that a session holds. -/
inductive Takes (n : Note) : Option SessionKeys → Option SessionKeys → Prop
  | passed {held : Option SessionKeys} (hn : ¬ n.IsStored) : Takes n held held
  | kept {c : Credentials} (hn : n.answer = .ok c) (hc : c.expiration = none) :
    Takes n none (some (.fixed c.keys))
  | rechecked {l : Lease} {c : Credentials} {t : Timestamp} (hn : n.answer = .ok c)
    (hc : c.expiration = none) (ht : t.instant? = some (n.time + recheck)) :
    Takes n (some (.leased l)) (some (.leased ⟨some c.keys, some t⟩))
  | expiring {held : Option SessionKeys} {c : Credentials} {t t' : Timestamp}
    (hn : n.answer = .ok c) (hc : c.expiration = some t) (hr : (written t).read = .ok t') :
    Takes n held (some (.leased ⟨some c.keys, some t'⟩))

/-- What a session holds after some answers. -/
inductive Holding : List Note → Option SessionKeys → Prop
  | unasked : Holding [] none
  | asked {notes : List Note} {n : Note} {held held' : Option SessionKeys}
    (h : Holding notes held) (ht : Takes n held held') : Holding (notes ++ [n]) held'

theorem Takes.none_iff {n : Note} {held held' : Option SessionKeys} (h : Takes n held held') :
    held' = none ↔ held = none ∧ ¬ n.IsStored := by
  cases h with
  | passed hn => simp [hn]
  | kept hn hc => simp [Note.isStored_of_none hn hc]
  | rechecked hn hc ht => simp
  | expiring hn hc hr => simp [Note.isStored_of_some hn hc hr]

theorem Takes.of_not_isStored {n : Note} {held held' : Option SessionKeys}
    (h : Takes n held held') (hn : ¬ n.IsStored) : held' = held := by
  cases h with
  | passed _ => rfl
  | kept hn' hc | rechecked hn' hc _ => exact (hn (Note.isStored_of_none hn' hc)).elim
  | expiring hn' hc hr => exact (hn (Note.isStored_of_some hn' hc hr)).elim

theorem Takes.of_none {n : Note} {held held' : Option SessionKeys} (h : Takes n held held')
    {c : Credentials} (hn : n.answer = .ok c) (hc : c.expiration = none) :
    (held = none ∧ held' = some (.fixed c.keys)) ∨
      (held ≠ none ∧ ∃ t, t.instant? = some (n.time + recheck) ∧
        held' = some (.leased ⟨some c.keys, some t⟩)) := by
  cases h with
  | passed hm => exact (hm (Note.isStored_of_none hn hc)).elim
  | kept hm hx =>
    rw [hn] at hm
    cases hm
    exact .inl ⟨rfl, rfl⟩
  | rechecked hm hx ht =>
    rw [hn] at hm
    cases hm
    exact .inr ⟨Option.some_ne_none _, _, ht, rfl⟩
  | expiring hm hx hr =>
    rw [hn] at hm
    cases hm
    rw [hc] at hx
    cases hx

theorem Holding.of_append {notes : List Note} {n : Note} {held' : Option SessionKeys}
    (h : Holding (notes ++ [n]) held') : ∃ held, Holding notes held ∧ Takes n held held' := by
  generalize hl : notes ++ [n] = all at h
  cases h with
  | unasked => simp at hl
  | asked h ht =>
    obtain ⟨rfl, hn⟩ := List.append_inj' hl rfl
    obtain rfl := List.singleton_inj.mp hn
    exact ⟨_, h, ht⟩

theorem Holding.none_iff {notes : List Note} {held : Option SessionKeys} (h : Holding notes held) :
    held = none ↔ ∀ m ∈ notes, ¬ m.IsStored := by
  induction h with
  | unasked => simp
  | asked h ht ih => simp [ht.none_iff, ih, or_imp, forall_and]

/-- After a last stored answer without an expiration the session holds its keys: for good when no
answer was stored before, and else for an hour. -/
theorem Holding.of_last {before after : List Note} {n : Note} {c : Credentials}
    {held : Option SessionKeys} (h : Holding (before ++ n :: after) held) (hn : n.answer = .ok c)
    (hc : c.expiration = none) (hlast : ∀ m ∈ after, ¬ m.IsStored) :
    ((∀ m ∈ before, ¬ m.IsStored) ∧ held = some (.fixed c.keys)) ∨
      ((∃ m ∈ before, m.IsStored) ∧ ∃ t, t.instant? = some (n.time + recheck) ∧
        held = some (.leased ⟨some c.keys, some t⟩)) := by
  induction after using List.reverseRecOn generalizing held with
  | nil =>
    obtain ⟨first, hbefore, ht⟩ := h.of_append
    rcases ht.of_none hn hc with ⟨hnone, hheld⟩ | ⟨hsome, hheld⟩
    · exact .inl ⟨hbefore.none_iff.mp hnone, hheld⟩
    · rw [Ne, hbefore.none_iff] at hsome
      push Not at hsome
      exact .inr ⟨hsome, hheld⟩
  | append_singleton after m ih =>
    rw [← List.cons_append, ← List.append_assoc] at h
    obtain ⟨held', hbefore, ht⟩ := h.of_append
    rw [ht.of_not_isStored (hlast m (by simp))]
    exact ih hbefore fun x hx => hlast x (List.mem_append_left _ hx)

/-! ### Uses -/

theorem fetch_dated_ok {ask : Asking σ} {p : σ} {notes : List Note} {w : World} {d : Delivery}
    {y : (σ × List Note) × World} (h : fetch (dated ask) ((p, notes), w) = (.ok d, y)) :
    ∃ c, (ask p w).1 = .ok c ∧ d = deliveryOf c y.2.clock ∧
      y.1.2 = notes ++ [⟨y.2.clock, .ok c⟩] := by
  unfold fetch dated at h
  dsimp only at h
  rcases ha : ask p w with ⟨answer, q, v⟩
  rw [ha] at h
  cases answer with
  | error f => cases h
  | ok c =>
    cases h
    exact ⟨c, rfl, rfl, rfl⟩

theorem fetch_dated_error {ask : Asking σ} {p : σ} {notes : List Note} {w : World} {f : Failure}
    {y : (σ × List Note) × World} (h : fetch (dated ask) ((p, notes), w) = (.error f, y)) :
    (ask p w).1 = .error f ∧ y.1.2 = notes ++ [⟨y.2.clock, .error f⟩] := by
  unfold fetch dated at h
  dsimp only at h
  rcases ha : ask p w with ⟨answer, q, v⟩
  rw [ha] at h
  cases answer with
  | error f' =>
    cases h
    exact ⟨rfl, rfl⟩
  | ok c => cases h

theorem recheck_read {now : Int} (hw : Recheckable now) :
    (written (.ofInstant (now + recheck))).read = .ok (.ofInstant (now + recheck)) := by
  have hfirst := hw.1
  have hr : recheck = 3600000000 := rfl
  refine written_read ⟨?_, hw.2, fun o ho => ?_⟩ fun o ho => ?_
  · show Timestamp.firstMoment ≤ now + recheck
    omega
  · cases ho
    decide
  · cases ho
    decide

theorem storing_takes {l l' : Lease} {c : Credentials} {now : Int} {r : Except Failure Unit}
    (hw : Recheckable now) (h : Lease.Storing method l (deliveryOf c now) now (r, l')) :
    Takes ⟨now, .ok c⟩ (some (.leased l)) (some (.leased l')) := by
  have delivered {keys : Keys} {field : ExpiryField}
      (hp : (deliveryOf c now).parts? = some (keys, field)) :
      keys = c.keys ∧ field = written (c.expiration.getD (.ofInstant (now + recheck))) := by
    simp only [deliveryOf, Delivery.parts?_complete] at hp
    cases hp
    exact ⟨rfl, rfl⟩
  have stored {keys : Keys} {field : ExpiryField} {t' : Timestamp}
      (hp : (deliveryOf c now).parts? = some (keys, field)) (hr : field.read = .ok t') :
      Takes ⟨now, .ok c⟩ (some (.leased l)) (some (.leased ⟨some keys, some t'⟩)) := by
    obtain ⟨rfl, rfl⟩ := delivered hp
    cases hx : c.expiration with
    | none =>
      rw [hx, Option.getD_none, recheck_read hw] at hr
      cases hr
      exact .rechecked rfl hx (Timestamp.instant?_ofInstant _)
    | some t =>
      rw [hx, Option.getD_some] at hr
      exact .expiring rfl hx hr
  cases h with
  | incomplete hp => simp [deliveryOf] at hp
  | unreadable hp hr =>
    obtain ⟨_, rfl⟩ := delivered hp
    cases hx : c.expiration with
    | none =>
      rw [hx, Option.getD_none, recheck_read hw] at hr
      cases hr
    | some t =>
      rw [hx, Option.getD_some] at hr
      exact .passed (Note.not_isStored_unreadable rfl hx hr)
  | faulty hp hr hf => exact stored hp hr
  | stored hp hr hf => exact stored hp hr

/-- Using a lease keeps the history of what the session holds. -/
theorem lease_holding {ask : Asking σ} {l l' : Lease} {p p' : σ} {notes notes' : List Note}
    {w w' : World} {answer : Except Failure Keys} (hh : Holding notes (some (.leased l)))
    (hcal : ∀ m ∈ notes', Recheckable m.time)
    (h : Lease.use method (fun s : (σ × List Note) × World => s.2.clock) (fetch (dated ask)) l
      ((p, notes), w) = (answer, l', ((p', notes'), w'))) :
    Holding notes' (some (.leased l')) := by
  have hu := Lease.use_using method (fun s : (σ × List Note) × World => s.2.clock)
    (fetch (dated ask)) l ((p, notes), w)
  rw [h] at hu
  generalize hr : (answer, l', ((p', notes'), w')) = r at hu
  have lost {f : Failure} {y : (σ × List Note) × World}
      (hf : fetch (dated ask) ((p, notes), w) = (.error f, y)) :
      Holding y.1.2 (some (.leased l)) := by
    obtain ⟨_, hnotes⟩ := fetch_dated_error hf
    rw [hnotes]
    exact .asked hh (.passed (Note.not_isStored_error rfl))
  have found {d : Delivery} {y : (σ × List Note) × World} {r : Except Failure Unit} {l' : Lease}
      (hf : fetch (dated ask) ((p, notes), w) = (.ok d, y)) (hy : ∀ m ∈ y.1.2, Recheckable m.time)
      (hs : Lease.Storing method l d y.2.clock (r, l')) : Holding y.1.2 (some (.leased l')) := by
    obtain ⟨c, _, rfl, hnotes⟩ := fetch_dated_ok hf
    have hw : Recheckable y.2.clock :=
      hy ⟨y.2.clock, .ok c⟩ (by rw [hnotes]; exact List.mem_append_right _ List.mem_cons_self)
    rw [hnotes]
    exact .asked hh (storing_takes hw hs)
  cases hu with
  | unclear _ | kept _ =>
    cases hr
    exact hh
  | failed _ hf | passedOver _ hf =>
    cases hr
    exact lost hf
  | refused _ _ hf hs =>
    cases hr
    exact found hf hcal hs
  | renewed _ _ hf hp hread ha =>
    cases hr
    exact found hf hcal (.stored hp hread (Lease.fault?_eq_none_iff.mpr ha))

theorem keysOf_takes {n : Note} {c : Credentials} {held : SessionKeys} (hn : n.answer = .ok c)
    (h : keysOf c = .ok held) : Takes n none (some held) := by
  rcases keysOf_ok h with ⟨hx, rfl⟩ | ⟨t, t', hx, hr, rfl⟩
  · exact .kept hn hx
  · exact .expiring hn hx hr

theorem useHeld_holding {ask : Asking σ} {held : SessionKeys} {s s' : Session} {p p' : σ}
    {notes notes' : List Note} {w w' : World} {answer : Except Failure Keys}
    (hs : s.held = some held) (hh : Holding notes (some held))
    (hcal : ∀ m ∈ notes', Recheckable m.time)
    (h : useHeld (dated ask) held s (p, notes) w = (answer, s', (p', notes'), w')) :
    Holding notes' s'.held := by
  cases held with
  | fixed k =>
    cases h
    rw [hs]
    exact hh
  | leased l =>
    unfold useHeld at h
    dsimp only at h
    rcases hu : Lease.use method (fun s : (σ × List Note) × World => s.2.clock)
      (fetch (dated ask)) l ((p, notes), w) with ⟨answer', l', ⟨p'', notes''⟩, w''⟩
    rw [hu] at h
    cases h
    exact lease_holding hh hcal hu

/-- One use of a session keeps the history of what it holds. -/
theorem keys_holding {ask : Asking σ} {s s' : Session} {p p' : σ} {notes notes' : List Note}
    {w w' : World} {answer : Except Failure Keys} (hh : Holding notes s.held)
    (hcal : ∀ m ∈ notes', Recheckable m.time)
    (h : s.keys (dated ask) (p, notes) w = (answer, s', (p', notes'), w')) :
    Holding notes' s'.held := by
  unfold keys load at h
  cases hs : s.held with
  | some held =>
    rw [hs] at h hh
    exact useHeld_holding hs hh hcal h
  | none =>
    rw [hs] at h hh
    dsimp only [dated] at h
    rcases ha : ask p w with ⟨found, q, v⟩
    rw [ha] at h
    cases found with
    | error f =>
      cases h
      rw [hs]
      exact .asked hh (.passed (Note.not_isStored_error rfl))
    | ok c =>
      dsimp only at h
      cases hk : keysOf c with
      | error f =>
        rw [hk] at h
        cases h
        rw [hs]
        refine .asked hh (.passed ?_)
        rintro ⟨held, hheld⟩
        simp only [Except.bind, hk] at hheld
        cases hheld
      | ok held =>
        rw [hk] at h
        exact useHeld_holding rfl (.asked hh (keysOf_takes rfl hk)) hcal h

theorem dated_grown (ask : Asking σ) (x : (σ × List Note) × World) :
    x.1.2 <+: (dated ask x.1 x.2).2.1.2 :=
  List.prefix_append x.1.2 _

theorem run_holding {ask : Asking σ} {turns : List Turn} {s : Session} {p : σ}
    {notes : List Note} {w : World} (hs : Holding notes s.held)
    (hcal : ∀ m ∈ (run (dated ask) turns (s, (p, notes), w)).2.1.2, Recheckable m.time) :
    Holding (run (dated ask) turns (s, (p, notes), w)).2.1.2
      (run (dated ask) turns (s, (p, notes), w)).1.held := by
  induction turns generalizing s p notes w with
  | nil => exact hs
  | cons t rest ih =>
    cases t with
    | use =>
      rcases hk : s.keys (dated ask) (p, notes) w with ⟨answer, s', ⟨p', notes'⟩, w'⟩
      have hrun : run (dated ask) (.use :: rest) (s, (p, notes), w) =
          run (dated ask) rest (s', (p', notes'), w') := by
        simp only [run, List.foldl_cons, turn, hk]
      rw [hrun] at hcal ⊢
      have hgrown : notes' <+: (run (dated ask) rest (s', (p', notes'), w')).2.1.2 :=
        run_respects (R := fun x y => x.1.2 <+: y.1.2) (fun _ => List.prefix_rfl)
          List.IsPrefix.trans (dated_grown ask) (fun _ _ _ => List.prefix_rfl) rest
          (s', (p', notes'), w')
      exact ih (keys_holding hs (fun m hm => hcal m (hgrown.subset hm)) hk) hcal
    | wait micros => exact ih hs hcal

/-! ### Keys that are overdue -/

/-- Keys whose time has passed are not handed out: the provider is asked, and only what it answers
now is. -/
theorem lease_overdue {ask : Asking σ} {k : Keys} {t : Timestamp} {d : Int} {l : Lease}
    {p p' : σ} {notes notes' : List Note} {w w' : World} {answer : Except Failure Keys}
    (ht : t.instant? = some d) (hd : d < w.clock)
    (h : Lease.use method (fun s : (σ × List Note) × World => s.2.clock) (fetch (dated ask))
      ⟨some k, some t⟩ ((p, notes), w) = (answer, l, ((p', notes'), w'))) :
    notes' = notes ++ [⟨w'.clock, (ask p w).1⟩] ∧
      ∀ k', answer = .ok k' → ∃ c, (ask p w).1 = .ok c ∧ c.keys = k' := by
  have hmandatory : Lease.need ⟨some k, some t⟩ w.clock = .ok .mandatory := by
    rw [need_leased ht, (Need.ofLeft_eq_mandatory_iff _).mpr]
    have hpos : 0 < mandatoryLimit := by decide
    omega
  have hu := Lease.use_using method (fun s : (σ × List Note) × World => s.2.clock)
    (fetch (dated ask)) ⟨some k, some t⟩ ((p, notes), w)
  rw [h] at hu
  generalize hr : (answer, l, ((p', notes'), w')) = r at hu
  cases hu with
  | unclear hn | kept hn | passedOver hn _ =>
    dsimp only at hn
    rw [hmandatory] at hn
    cases hn
  | failed _ hf =>
    obtain ⟨ha, hnotes⟩ := fetch_dated_error hf
    cases hr
    rw [ha]
    exact ⟨hnotes, fun k' hk' => by cases hk'⟩
  | refused _ _ hf _ =>
    obtain ⟨c, hc, _, hnotes⟩ := fetch_dated_ok hf
    cases hr
    rw [hc]
    exact ⟨hnotes, fun k' hk' => by cases hk'⟩
  | renewed _ _ hf hp _ _ =>
    obtain ⟨c, hc, rfl, hnotes⟩ := fetch_dated_ok hf
    cases hr
    rw [hc]
    refine ⟨hnotes, fun k' hk' => ⟨c, rfl, ?_⟩⟩
    cases hk'
    simp only [deliveryOf, Delivery.parts?_complete] at hp
    cases hp
    rfl

theorem keys_overdue {ask : Asking σ} {s s' : Session} {k : Keys} {t : Timestamp} {d : Int}
    {p p' : σ} {notes notes' : List Note} {w w' : World} {answer : Except Failure Keys}
    (hs : s.held = some (.leased ⟨some k, some t⟩)) (ht : t.instant? = some d)
    (hd : d < w.clock)
    (h : s.keys (dated ask) (p, notes) w = (answer, s', (p', notes'), w')) :
    notes' = notes ++ [⟨w'.clock, (ask p w).1⟩] ∧
      ∀ k', answer = .ok k' → ∃ c, (ask p w).1 = .ok c ∧ c.keys = k' := by
  unfold keys load at h
  rw [hs] at h
  dsimp only [useHeld] at h
  rcases hu : Lease.use method (fun s : (σ × List Note) × World => s.2.clock)
    (fetch (dated ask)) ⟨some k, some t⟩ ((p, notes), w) with ⟨answer', l, ⟨p'', notes''⟩, w''⟩
  rw [hu] at h
  cases h
  exact lease_overdue ht hd hu

/-- What a use does with keys of an answer without an expiration that is older than an hour. When
an earlier answer was stored, the provider is asked again, and only keys that it answers now are
handed out. When that answer was the first one stored, the provider is not asked, and the old keys
are handed out. -/
theorem run_rechecks {ask : Asking σ} {s s' s'' : Session} {p p' p'' : σ} {w w' w'' : World}
    {turns : List Turn} {before after notes' : List Note} {n : Note} {c : Credentials}
    {answer : Except Failure Keys} (hs : s.held = none)
    (hr : run (dated ask) turns (s, (p, []), w) = (s', (p', before ++ n :: after), w'))
    (hk : s'.keys (dated ask) (p', before ++ n :: after) w' = (answer, s'', (p'', notes'), w''))
    (hcal : ∀ m ∈ before ++ n :: after, Recheckable m.time) (hn : n.answer = .ok c)
    (hnone : c.expiration = none) (hlast : ∀ m ∈ after, ¬ m.IsStored)
    (hold : n.time + recheck < w'.clock) :
    run ask turns (s, p, w) = (s', p', w') ∧ s'.keys ask p' w' = (answer, s'', p'', w'') ∧
      s'.held.bind SessionKeys.current = some c.keys ∧
      ((∃ m ∈ before, m.IsStored) →
        notes' = before ++ n :: after ++ [⟨w''.clock, (ask p' w').1⟩] ∧
        ∀ k, answer = .ok k → ∃ c', (ask p' w').1 = .ok c' ∧ c'.keys = k) ∧
      ((∀ m ∈ before, ¬ m.IsStored) →
        answer = .ok c.keys ∧ notes' = before ++ n :: after ∧ (s'', p'', w'') = (s', p', w')) := by
  have hview (y : σ × List Note) (w : World) :
      ask y.1 w = ((dated ask y w).1, (dated ask y w).2.1.1, (dated ask y w).2.2) := rfl
  have hrun := run_view Prod.fst hview turns s (p, []) w
  have hkeys := keys_view Prod.fst hview s' (p', before ++ n :: after) w'
  rw [hr] at hrun
  rw [hk] at hkeys
  refine ⟨hrun, hkeys, ?_⟩
  have hholding : Holding (run (dated ask) turns (s, (p, []), w)).2.1.2
      (run (dated ask) turns (s, (p, []), w)).1.held :=
    run_holding (by rw [hs]; exact .unasked) (by rw [hr]; exact hcal)
  rw [hr] at hholding
  rcases hholding.of_last hn hnone hlast with ⟨hfirst, hheld⟩ | ⟨hlater, t, ht, hheld⟩
  · rw [keys_of_fixed hheld] at hk
    cases hk
    rw [hheld]
    refine ⟨rfl, fun hany => ?_, fun _ => ⟨rfl, rfl, rfl⟩⟩
    obtain ⟨m, hm, hstored⟩ := hany
    exact (hfirst m hm hstored).elim
  · obtain ⟨hnotes, hnew⟩ := keys_overdue hheld ht hold hk
    rw [hheld]
    refine ⟨rfl, fun _ => ⟨hnotes, hnew⟩, fun hall => ?_⟩
    obtain ⟨m, hm, hstored⟩ := hlater
    exact (hall m hm hstored).elim

def renewedKeys : Keys := ⟨.text "ASIARENEWED", .text "renewed-secret", .text "renewed-token"⟩

/-- A provider that has keys for ten minutes, then keys for good, and then keys until the end of
the second hour. -/
def recovering : Asking Nat
  | 0, w => (.ok ⟨shortKeys, some (.ofInstant (600 * Time.second)), none⟩, 1, w)
  | 1, w => (.ok ⟨lastingKeys, none, none⟩, 2, w)
  | n, w => (.ok ⟨renewedKeys, some (.ofInstant (2 * Time.hour)), none⟩, n, w)

def shortNote : Note := ⟨0, .ok ⟨shortKeys, some (.ofInstant (600 * Time.second)), none⟩⟩

def lastingNote : Note := ⟨0, .ok ⟨lastingKeys, none, none⟩⟩

set_option maxRecDepth 20000 in
/-- Keys for good that came in place of short-lived ones are asked for again after an hour. -/
theorem run_rechecks_recovering :
    ∃ s' s'' p' p'' w' w'' notes',
      run (dated recovering) [.use, .wait 3600000001] ({}, (0, []), {}) =
        (s', (p', [shortNote, lastingNote]), w') ∧
      s'.keys recovering p' w' = (.ok renewedKeys, s'', p'', w'') ∧
      s'.held.bind SessionKeys.current = some lastingKeys ∧
      notes' = [shortNote, lastingNote, ⟨w''.clock, (recovering p' w').1⟩] := by
  have hr : run (dated recovering) [.use, .wait 3600000001] ({}, (0, []), {}) =
      (_, (_, [shortNote] ++ lastingNote :: []), _) := rfl
  have hk : Session.keys (dated recovering)
      (run (dated recovering) [.use, .wait 3600000001] ({}, (0, []), {})).1
      (run (dated recovering) [.use, .wait 3600000001] ({}, (0, []), {})).2.1
      (run (dated recovering) [.use, .wait 3600000001] ({}, (0, []), {})).2.2 =
      (.ok renewedKeys, _, _, _) := rfl
  have hcal : ∀ m ∈ [shortNote] ++ lastingNote :: [], Recheckable m.time := by
    intro m hm
    obtain rfl | rfl : m = shortNote ∨ m = lastingNote := by simpa using hm
    · exact ⟨by decide, by decide⟩
    · exact ⟨by decide, by decide⟩
  obtain ⟨_, hkeys, hheld, hasked, _⟩ :=
    run_rechecks rfl hr hk hcal rfl rfl (fun m hm => by cases hm) (by decide)
  exact ⟨_, _, _, _, _, _, _, hr, hkeys, hheld,
    (hasked ⟨shortNote, List.mem_cons_self, _, rfl⟩).1⟩

/-- A provider that prefers the keys of its machine to keys for good. -/
def machineFirst : Provider := .chain [.leaf .ofInstance, .leaf (.fixed lastingKeys)]

def roleFields : List (String × Datum) :=
  [("role_name", .text "app"), ("access_key", renewedKeys.accessKey),
    ("secret_key", renewedKeys.secretKey), ("token", renewedKeys.token)]

def roleLater : World where
  metadata := [.ok {}, .ok { fields := roleFields, expiresIn := some Time.hour }]

set_option maxRecDepth 20000 in
/-- A session that has loaded keys for good hands them out two hours later without asking, while
its provider has the keys of a role. -/
theorem keys_machineFirst :
    ∃ s s' p' w' n c, create none roleLater = (.ok s, roleLater) ∧
      run (dated Provider.resolve) [.use, .wait 7200000000] (s, (machineFirst, []), roleLater) =
        (s', (p', [n]), w') ∧ n.answer = .ok c ∧ c.expiration = none ∧
      n.time + recheck < w'.clock ∧
      s'.keys (dated Provider.resolve) (p', [n]) w' = (.ok c.keys, s', (p', [n]), w') ∧
      ∃ c', (p'.resolve w').1 = .ok c' ∧ c'.keys = renewedKeys :=
  ⟨_, _, _, _, _, _, rfl, rfl, rfl, rfl, by decide, rfl, _, rfl, rfl⟩

end CloudCredentials.Session
