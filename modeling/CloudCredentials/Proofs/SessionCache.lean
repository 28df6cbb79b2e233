import CloudCredentials.Proofs.LeaseUse
import CloudCredentials.Proofs.WrittenTime
import CloudCredentials.Session
import Mathlib.Data.List.Induction

/-!
# The keys of a session as a cache of one entry

What a session holds is determined by what its provider has answered, and when: it is what the last
answer that could be stored makes of it. The provider is asked when nothing is held or when the
entry is due, and at no other time; an answer that is a failure leaves the entry as it is.
-/

namespace CloudCredentials.Session

open Time

variable {σ : Type}

/-! ### Answers as they are noted -/

/-- An answer of a provider, and when it was given. -/
structure Note where
  time : Int
  answer : Except Failure Credentials

/-- A provider whose answers are noted. -/
def noted (ask : Asking σ) : Asking (σ × List Note) := fun p w =>
  let (answer, q, v) := ask p.1 w
  (answer, (q, p.2 ++ [⟨w.clock, answer⟩]), v)

/-! ### Entries -/

/-- Keys, and the instant from which they are not used any more. -/
structure Entry where
  keys : Keys
  deadline : Option Int

def Entry.IsDue (e : Entry) (now : Int) : Prop :=
  ∃ d, e.deadline = some d ∧ d - now < renewalLimit

/-- The entry that an answer makes, when there is an entry already or not. Without an expiration
the first keys are for good, and later ones are used for an hour. -/
def Note.makes (n : Note) (loaded : Bool) : Option Entry :=
  match n.answer with
  | .error _ => none
  | .ok c =>
    match c.expiration with
    | none => some ⟨c.keys, if loaded then some (n.time + recheck) else none⟩
    | some t => if IsWhole t.offset then some ⟨c.keys, t.instant?⟩ else none

def Entry.next (held : Option Entry) (n : Note) : Option Entry :=
  (n.makes held.isSome).or held

def Entry.after (notes : List Note) : Option Entry := notes.foldl next none

/-- An entry comes from the last answer that could be stored. -/
def Entry.ComesFrom (e : Entry) (notes : List Note) : Prop :=
  ∃ earlier n later, notes = earlier ++ n :: later ∧
    n.makes (Entry.after earlier).isSome = some e ∧ ∀ m ∈ later, m.makes true = none

theorem Entry.next_some {held : Option Entry} {n : Note} {e : Entry}
    (h : n.makes held.isSome = some e) : next held n = some e := by
  simp only [next, h, Option.some_or]

theorem Entry.next_none {held : Option Entry} {n : Note} (h : n.makes held.isSome = none) :
    next held n = held := by
  simp only [next, h, Option.none_or]

theorem Entry.next_error {n : Note} {f : Failure} (h : n.answer = .error f)
    (held : Option Entry) : next held n = held :=
  next_none (by simp only [Note.makes, h])

theorem Entry.after_append (notes more : List Note) :
    Entry.after (notes ++ more) = more.foldl Entry.next (Entry.after notes) := by
  simp only [Entry.after, List.foldl_append]

theorem Note.makes_none {c : Credentials} (h : c.expiration = none) (now : Int) (loaded : Bool) :
    makes ⟨now, .ok c⟩ loaded =
      some ⟨c.keys, if loaded then some (now + recheck) else none⟩ := by
  simp only [makes, h]

theorem Note.makes_some {c : Credentials} {t : Timestamp} (h : c.expiration = some t) (now : Int)
    (loaded : Bool) : makes ⟨now, .ok c⟩ loaded =
      if IsWhole t.offset then some ⟨c.keys, t.instant?⟩ else none := by
  simp only [makes, h]

theorem Note.makes_isSome (n : Note) (loaded : Bool) :
    (n.makes loaded).isSome = (n.makes true).isSome := by
  unfold makes
  cases n.answer with
  | error f => rfl
  | ok c =>
    dsimp only
    cases c.expiration with
    | none => rfl
    | some t => rfl

theorem Entry.comesFrom {notes : List Note} {e : Entry} (h : Entry.after notes = some e) :
    e.ComesFrom notes := by
  induction notes using List.reverseRecOn generalizing e with
  | nil => cases h
  | append_singleton notes n ih =>
    rw [after_append] at h
    simp only [List.foldl_cons, List.foldl_nil, next] at h
    cases hn : n.makes (Entry.after notes).isSome with
    | some e' =>
      rw [hn] at h
      cases h
      exact ⟨notes, n, [], rfl, hn, fun m hm => by cases hm⟩
    | none =>
      rw [hn, Option.none_or] at h
      obtain ⟨earlier, m, later, rfl, hm, hlater⟩ := ih h
      refine ⟨earlier, m, later ++ [n], by simp, hm, ?_⟩
      intro x hx
      rcases List.mem_append.mp hx with hx | hx
      · exact hlater x hx
      · rw [List.mem_singleton.mp hx]
        have hs := n.makes_isSome (Entry.after (earlier ++ m :: later)).isSome
        rw [hn] at hs
        exact Option.not_isSome_iff_eq_none.mp (by rw [← hs]; decide)

/-! ### What a session holds -/

/-- A session holds an entry: keys for good without a deadline, a lease with one. -/
inductive Holds : Option SessionKeys → Option Entry → Prop
  | unloaded : Holds none none
  | fixed (k : Keys) : Holds (some (.fixed k)) (some ⟨k, none⟩)
  | leased (k : Keys) {t : Timestamp} {d : Int} (h : t.instant? = some d) :
    Holds (some (.leased ⟨some k, some t⟩)) (some ⟨k, some d⟩)

theorem Holds.expiration {s : Session} {e : Entry} (h : Holds s.held (some e)) :
    s.expiration.bind Timestamp.instant? = e.deadline ∧
      (s.expiration = none ↔ e.deadline = none) := by
  unfold Session.expiration
  cases hs : s.held with
  | none =>
    rw [hs] at h
    cases h
  | some held =>
    rw [hs] at h
    cases h with
    | fixed k => exact ⟨rfl, iff_of_true rfl rfl⟩
    | leased k hd => exact ⟨hd, by simp⟩

/-- A provider that only answers: the clock stands still meanwhile, and expirations are times of
the calendar with an offset. -/
structure Steady (ask : Asking σ) : Prop where
  clock : ∀ p w, (ask p w).2.2.clock = w.clock
  calendar : ∀ p w c t, (ask p w).1 = .ok c → c.expiration = some t → t.InCalendar
  aware : ∀ p w c t, (ask p w).1 = .ok c → c.expiration = some t → t.offset ≠ none

theorem Steady.instant {ask : Asking σ} (h : Steady ask) {p : σ} {w : World} {c : Credentials}
    {t : Timestamp} (hc : (ask p w).1 = .ok c) (ht : c.expiration = some t) :
    ∃ d, t.instant? = some d := by
  unfold Timestamp.instant?
  cases ho : t.offset with
  | none => exact (h.aware p w c t hc ht ho).elim
  | some o => exact ⟨_, rfl⟩

def Recheckable (now : Int) : Prop :=
  Timestamp.firstMoment ≤ now ∧ now + recheck < Timestamp.endMoment

/-- The questions that one use asks: none while the entry is not due, one to renew it, one to load
the session, and one more when what was loaded is due at once. -/
inductive Asks (held : Option Entry) (now : Int) : List Note → Prop
  | idle {e : Entry} (he : held = some e) (hd : ¬ e.IsDue now) : Asks held now []
  | renewing {e : Entry} {n : Note} (he : held = some e) (hd : e.IsDue now) : Asks held now [n]
  | loading {n : Note} (hh : held = none) (hd : ∀ e, n.makes false = some e → ¬ e.IsDue now) :
    Asks held now [n]
  | loadingDue {n m : Note} {e : Entry} (hh : held = none) (he : n.makes false = some e)
    (hd : e.IsDue now) : Asks held now [n, m]

/-- What one use does to what the session holds, given the answers to its questions. -/
structure Serves (entry : Option Entry) (now : Int) (held held' : Option SessionKeys)
    (more : List Note) (answer : Except Failure Keys) : Prop where
  holds : Holds held' (more.foldl Entry.next entry)
  unchanged : (∀ n ∈ more, ∃ f, n.answer = .error f) → held' = held
  keys : ∀ k, answer = .ok k → ∃ e, more.foldl Entry.next entry = some e ∧ e.keys = k ∧
    ∀ d, e.deadline = some d → now ≤ d

theorem Serves.of_same {entry : Option Entry} {now : Int} {held : Option SessionKeys}
    {more : List Note} {answer : Except Failure Keys} (hm : more.foldl Entry.next entry = entry)
    (hh : Holds held entry)
    (hk : ∀ k, answer = .ok k → ∃ e, entry = some e ∧ e.keys = k ∧
      ∀ d, e.deadline = some d → now ≤ d) : Serves entry now held held more answer :=
  ⟨by rw [hm]; exact hh, fun _ => rfl, by rw [hm]; exact hk⟩

/-! ### One question -/

theorem written_read {t : Timestamp} (hc : t.InCalendar) (hw : IsWhole t.offset) :
    (written t).read = .ok t := by
  simp only [written, ExpiryField.read, readTime, Timestamp.read_text hc hw]

theorem written_read_seconds {t : Timestamp} (hc : t.InCalendar) (hw : ¬ IsWhole t.offset) :
    ∃ f, (written t).read = .error f := by
  obtain ⟨fault, hf⟩ := Timestamp.read_text_seconds hc hw
  exact ⟨.time fault, by simp only [written, ExpiryField.read, readTime, hf]⟩

theorem need_leased {k : Keys} {t : Timestamp} {d now : Int} (hd : t.instant? = some d) :
    Lease.need ⟨some k, some t⟩ now = .ok (Need.ofLeft (d - now)) := by
  simp only [Lease.need, hd]

theorem isDue_of_need {k : Keys} {t : Timestamp} {d now : Int} (hd : t.instant? = some d)
    {need : Need} (hn : Lease.need ⟨some k, some t⟩ now = .ok need) (hu : need ≠ .unneeded) :
    Entry.IsDue ⟨k, some d⟩ now := by
  rw [need_leased hd] at hn
  refine ⟨d, rfl, Int.not_le.mp fun hl => hu ?_⟩
  rw [← Except.ok.inj hn]
  exact (Need.ofLeft_eq_unneeded_iff _).mpr hl

section Steady

variable {ask : Asking σ} (hask : Steady ask)

include hask

theorem deliveryOf_entry {p : σ} {w : World} {c : Credentials} (h : (ask p w).1 = .ok c)
    {now : Int} (hw : Recheckable now) :
    ∃ t d, deliveryOf c now = .complete c.keys (written t) ∧ t.InCalendar ∧
      t.instant? = some d ∧ Note.makes ⟨now, .ok c⟩ true =
        if IsWhole t.offset then some ⟨c.keys, some d⟩ else none := by
  unfold deliveryOf
  cases ht : c.expiration with
  | none =>
    refine ⟨.ofInstant (now + recheck), now + recheck, rfl, ⟨?_, hw.2, fun o ho => ?_⟩,
      Timestamp.instant?_ofInstant _, ?_⟩
    · have hfirst := hw.1
      have hr : recheck = 3600000000 := rfl
      show Timestamp.firstMoment ≤ now + recheck
      omega
    · cases ho
      decide
    · rw [Note.makes_none ht]
      rfl
  | some t =>
    obtain ⟨d, hd⟩ := hask.instant h ht
    refine ⟨t, d, rfl, hask.calendar p w c t h ht, hd, ?_⟩
    rw [Note.makes_some ht, hd]

theorem fetch_noted_error {p : σ} {notes : List Note} {w : World} {f : Failure}
    {y : (σ × List Note) × World} (h : fetch (noted ask) ((p, notes), w) = (.error f, y)) :
    y.2.clock = w.clock ∧ ∃ n, y.1.2 = notes ++ [n] ∧ n.answer = .error f := by
  have hclock := hask.clock p w
  unfold fetch noted at h
  rcases ha : ask p w with ⟨answer, q, v⟩
  rw [ha] at hclock
  dsimp only at h
  rw [ha] at h
  cases answer with
  | error f' =>
    cases h
    exact ⟨hclock, _, rfl, rfl⟩
  | ok c => cases h

theorem fetch_noted_ok {p : σ} {notes : List Note} {w : World} {x : Delivery}
    {y : (σ × List Note) × World} (h : fetch (noted ask) ((p, notes), w) = (.ok x, y)) :
    y.2.clock = w.clock ∧ ∃ c, (ask p w).1 = .ok c ∧ x = deliveryOf c w.clock ∧
      y.1.2 = notes ++ [⟨w.clock, .ok c⟩] := by
  have hclock := hask.clock p w
  unfold fetch noted at h
  rcases ha : ask p w with ⟨answer, q, v⟩
  rw [ha] at hclock
  dsimp only at h hclock
  rw [ha] at h
  cases answer with
  | error f => cases h
  | ok c =>
    cases h
    exact ⟨hclock, c, rfl, by rw [hclock], rfl⟩

/-- A lease that takes over an answer holds the entry that the answer makes, also when it then
refuses to hand it out. -/
theorem storing_holds {p : σ} {w : World} {c : Credentials} (hc : (ask p w).1 = .ok c)
    (hw : Recheckable w.clock) {k : Keys} {t : Timestamp} {d : Int} (hd : t.instant? = some d)
    {r : Except Failure Unit} {l : Lease}
    (h : Lease.Storing method ⟨some k, some t⟩ (deliveryOf c w.clock) w.clock (r, l)) :
    Holds (some (.leased l)) (Entry.next (some ⟨k, some d⟩) ⟨w.clock, .ok c⟩) ∧
      (r = .ok () → l.keys = some c.keys ∧ ∃ d', w.clock ≤ d' ∧
        Entry.next (some ⟨k, some d⟩) ⟨w.clock, .ok c⟩ = some ⟨c.keys, some d'⟩) := by
  obtain ⟨x, dx, hx, hcal, hi, hentry⟩ := deliveryOf_entry hask hc hw
  rw [hx] at h
  by_cases hwhole : IsWhole x.offset
  · rw [if_pos hwhole] at hentry
    have hread := written_read hcal hwhole
    rw [Entry.next_some hentry]
    cases h with
    | incomplete hp => cases hp
    | unreadable hp hr =>
      cases hp
      rw [hread] at hr
      cases hr
    | faulty hp hr hf =>
      cases hp
      rw [hread] at hr
      cases hr
      exact ⟨.leased c.keys hi, fun h => by cases h⟩
    | stored hp hr hf =>
      cases hp
      rw [hread] at hr
      cases hr
      obtain ⟨e, he, hle⟩ := Lease.fault?_eq_none_iff.mp hf
      rw [hi] at he
      cases he
      exact ⟨.leased c.keys hi, fun _ => ⟨rfl, dx, hle, rfl⟩⟩
  · rw [if_neg hwhole] at hentry
    obtain ⟨f, hread⟩ := written_read_seconds hcal hwhole
    rw [Entry.next_none hentry]
    cases h with
    | incomplete hp => cases hp
    | unreadable hp hr => exact ⟨.leased k hd, fun h => by cases h⟩
    | faulty hp hr hf =>
      cases hp
      rw [hread] at hr
      cases hr
    | stored hp hr hf =>
      cases hp
      rw [hread] at hr
      cases hr

theorem storing_serves {p : σ} {w : World} {c : Credentials} (hc : (ask p w).1 = .ok c)
    (hw : Recheckable w.clock) {k : Keys} {t : Timestamp} {d : Int} (hd : t.instant? = some d)
    {r : Except Failure Unit} {l : Lease}
    (hs : Lease.Storing method ⟨some k, some t⟩ (deliveryOf c w.clock) w.clock (r, l))
    {answer : Except Failure Keys}
    (hr : ∀ k', answer = .ok k' → r = .ok () ∧ l.keys = some k') :
    Serves (some ⟨k, some d⟩) w.clock (some (.leased ⟨some k, some t⟩)) (some (.leased l))
      [⟨w.clock, .ok c⟩] answer := by
  obtain ⟨hholds, hok⟩ := storing_holds hask hc hw hd hs
  refine ⟨hholds, fun hall => ?_, fun k' hk' => ?_⟩
  · obtain ⟨f, hf⟩ := hall _ (List.mem_singleton_self _)
    cases hf
  · obtain ⟨hu, hl⟩ := hr k' hk'
    obtain ⟨hl', d', hle, hnext⟩ := hok hu
    rw [hl'] at hl
    cases hl
    exact ⟨_, hnext, rfl, fun e he => by cases he; exact hle⟩

/-- The use of a lease serves the entry of the lease, with a question if it is due. -/
theorem lease_serves {k : Keys} {t : Timestamp} {d : Int} (hd : t.instant? = some d) {p p' : σ}
    {notes notes' : List Note} {w w' : World} (hw : Recheckable w.clock) {l : Lease}
    {answer : Except Failure Keys}
    (h : Lease.use method (fun s : (σ × List Note) × World => s.2.clock) (fetch (noted ask))
      ⟨some k, some t⟩ ((p, notes), w) = (answer, l, ((p', notes'), w'))) :
    w'.clock = w.clock ∧ ∃ more, notes' = notes ++ more ∧
      Serves (some ⟨k, some d⟩) w.clock (some (.leased ⟨some k, some t⟩)) (some (.leased l)) more
        answer ∧
      ((more = [] ∧ ¬ Entry.IsDue ⟨k, some d⟩ w.clock) ∨
        ((∃ n, more = [n]) ∧ Entry.IsDue ⟨k, some d⟩ w.clock)) := by
  have hlt : mandatoryLimit < renewalLimit := by decide
  have hpos : 0 < mandatoryLimit := by decide
  have held : Holds (some (.leased ⟨some k, some t⟩)) (some ⟨k, some d⟩) := .leased k hd
  have hu := Lease.use_using method (fun s : (σ × List Note) × World => s.2.clock)
    (fetch (noted ask)) ⟨some k, some t⟩ ((p, notes), w)
  rw [h] at hu
  generalize hr : (answer, l, ((p', notes'), w')) = r at hu
  cases hu with
  | unclear hn =>
    rw [need_leased hd] at hn
    cases hn
  | kept hn =>
    rw [need_leased hd] at hn
    have hfar := (Need.ofLeft_eq_unneeded_iff _).mp (Except.ok.inj hn)
    dsimp only at hfar
    cases hr
    refine ⟨rfl, [], (List.append_nil _).symm, .of_same rfl held ?_, .inl ⟨rfl, ?_⟩⟩
    · intro k' hk'
      cases hk'
      exact ⟨_, rfl, rfl, fun d' hd' => by cases hd'; omega⟩
    · rintro ⟨d', hd', hlow⟩
      cases hd'
      omega
  | failed hn hf =>
    obtain ⟨ht, n, hn', he⟩ := fetch_noted_error hask hf
    cases hr
    exact ⟨ht, [n], hn', .of_same (Entry.next_error he _) held (fun k' hk' => by cases hk'),
      .inr ⟨⟨n, rfl⟩, isDue_of_need hd hn (by decide)⟩⟩
  | passedOver hn hf =>
    obtain ⟨ht, n, hn', he⟩ := fetch_noted_error hask hf
    obtain ⟨keys, _, e, hk, ht', hi, hmin, _⟩ := Lease.need_advisory hn
    dsimp only at hmin
    cases hk
    cases ht'
    rw [hd] at hi
    cases hi
    simp only [Lease.handOut] at hr
    cases hr
    refine ⟨ht, [n], hn', .of_same (Entry.next_error he _) held ?_,
      .inr ⟨⟨n, rfl⟩, isDue_of_need hd hn (by decide)⟩⟩
    intro k' hk'
    cases hk'
    exact ⟨_, rfl, rfl, fun d' hd' => by cases hd'; omega⟩
  | refused hn hu hf hs =>
    obtain ⟨ht, c, hc, rfl, hn'⟩ := fetch_noted_ok hask hf
    cases hr
    dsimp only at ht hs
    rw [ht] at hs
    exact ⟨ht, _, hn', storing_serves hask hc hw hd hs (fun k' hk' => by cases hk'),
      .inr ⟨⟨_, rfl⟩, isDue_of_need hd hn hu⟩⟩
  | renewed hn hu hf hp hread ha =>
    obtain ⟨ht, c, hc, rfl, hn'⟩ := fetch_noted_ok hask hf
    cases hr
    dsimp only at ht ha
    rw [ht] at ha
    have hs := Lease.fault?_eq_none_iff.mpr ha
    refine ⟨ht, _, hn', storing_serves hask hc hw hd (.stored hp hread hs) fun k' hk' => ?_,
      .inr ⟨⟨_, rfl⟩, isDue_of_need hd hn hu⟩⟩
    cases hk'
    exact ⟨rfl, rfl⟩

theorem useHeld_serves {held : SessionKeys} {e : Entry} (hh : Holds (some held) (some e))
    {s s' : Session} (hs : s.held = some held) {p p' : σ} {notes notes' : List Note} {w w' : World}
    (hw : Recheckable w.clock) {answer : Except Failure Keys}
    (h : useHeld (noted ask) held s (p, notes) w = (answer, s', (p', notes'), w')) :
    w'.clock = w.clock ∧ ∃ more, notes' = notes ++ more ∧
      Serves (some e) w.clock (some held) s'.held more answer ∧
      ((more = [] ∧ ¬ e.IsDue w.clock) ∨ ((∃ n, more = [n]) ∧ e.IsDue w.clock)) := by
  unfold useHeld at h
  cases hh with
  | fixed k =>
    cases h
    refine ⟨rfl, [], (List.append_nil _).symm, ?_, .inl ⟨rfl, ?_⟩⟩
    · rw [hs]
      refine .of_same rfl (.fixed k) fun k' hk' => ?_
      cases hk'
      exact ⟨_, rfl, rfl, fun d hd => by cases hd⟩
    · rintro ⟨d, hd, _⟩
      cases hd
  | @leased k t d hd =>
    dsimp only at h
    rcases hu : Lease.use method (fun s : (σ × List Note) × World => s.2.clock)
      (fetch (noted ask)) ⟨some k, some t⟩ ((p, notes), w) with ⟨answer', l, ⟨p'', notes''⟩, w''⟩
    rw [hu] at h
    cases h
    exact lease_serves hask hd hw hu

/-- What an answer makes a session hold is the entry that its note makes, if it makes one. -/
theorem keysOf_entry {p : σ} {w : World} {c : Credentials} (h : (ask p w).1 = .ok c) (now : Int) :
    (∃ held e, keysOf c = .ok held ∧ Note.makes ⟨now, .ok c⟩ false = some e ∧
      Holds (some held) (some e)) ∨
    ∃ f, keysOf c = .error f ∧ Note.makes ⟨now, .ok c⟩ false = none := by
  unfold keysOf
  cases hx : c.expiration with
  | none => exact .inl ⟨_, _, rfl, Note.makes_none hx now false, .fixed c.keys⟩
  | some t =>
    have he := Note.makes_some hx now false
    have hcal := hask.calendar p w c t h hx
    obtain ⟨d, hd⟩ := hask.instant h hx
    dsimp only
    by_cases hwhole : IsWhole t.offset
    · rw [if_pos hwhole, hd] at he
      rw [written_read hcal hwhole]
      exact .inl ⟨_, _, rfl, he, .leased c.keys hd⟩
    · obtain ⟨f, hread⟩ := written_read_seconds hcal hwhole
      rw [if_neg hwhole] at he
      rw [hread]
      exact .inr ⟨f, rfl, he⟩

theorem load_noted {s : Session} (hs : s.held = none) (p : σ) (notes : List Note) (w : World) :
    ∃ q v, v.clock = w.clock ∧
      (∀ f, (ask p w).1.bind keysOf = .error f →
        load (noted ask) s (p, notes) w =
          (.error f, s, (q, notes ++ [⟨w.clock, (ask p w).1⟩]), v)) ∧
      ∀ held, (ask p w).1.bind keysOf = .ok held →
        load (noted ask) s (p, notes) w =
          (.ok held, { s with held := some held }, (q, notes ++ [⟨w.clock, (ask p w).1⟩]), v) := by
  have hclock := hask.clock p w
  simp only [load, noted, hs]
  rcases ha : ask p w with ⟨answer, q, v⟩
  rw [ha] at hclock
  refine ⟨q, v, hclock, fun f hf => ?_, fun held hf => ?_⟩
  · cases answer with
    | error f' =>
      cases hf
      rfl
    | ok c =>
      have hk : keysOf c = .error f := hf
      simp only [hk]
  · cases answer with
    | error f' => cases hf
    | ok c =>
      have hk : keysOf c = .ok held := hf
      simp only [hk]

theorem keys_serves_unloaded {s s' : Session} (hs : s.held = none) {p p' : σ}
    {notes notes' : List Note} {w w' : World} (hw : Recheckable w.clock)
    {answer : Except Failure Keys}
    (h : s.keys (noted ask) (p, notes) w = (answer, s', (p', notes'), w')) :
    w'.clock = w.clock ∧ ∃ more, notes' = notes ++ more ∧
      Serves none w.clock none s'.held more answer ∧ Asks none w.clock more := by
  obtain ⟨q, v, hv, hlost, hfound⟩ := load_noted hask hs p notes w
  unfold keys at h
  -- an answer that makes no entry leaves the session as it was
  have lost {f : Failure} (hf : (ask p w).1.bind keysOf = .error f)
      (he : Note.makes ⟨w.clock, (ask p w).1⟩ false = none) :
      w'.clock = w.clock ∧ ∃ more, notes' = notes ++ more ∧
        Serves none w.clock none s'.held more answer ∧ Asks none w.clock more := by
    rw [hlost f hf] at h
    cases h
    refine ⟨hv, [_], rfl, ?_, .loading rfl fun e hse => ?_⟩
    · rw [hs]
      exact .of_same (Entry.next_none he) .unloaded fun k hk => by cases hk
    · rw [he] at hse
      cases hse
  cases hc : (ask p w).1 with
  | error f =>
    rw [hc] at lost
    exact lost rfl rfl
  | ok c =>
    rcases keysOf_entry hask hc w.clock with ⟨held, e, hk, he, hh⟩ | ⟨f, hk, he⟩
    · rw [hfound held (by rw [hc]; exact hk), hc] at h
      rw [← hv] at hw
      obtain ⟨ht, more, hn, hserves, hasks⟩ := useHeld_serves hask hh rfl hw h
      rw [hv] at hserves hasks ht
      refine ⟨ht, ⟨w.clock, .ok c⟩ :: more, by rw [hn, List.append_assoc]; rfl, ⟨?_, ?_, ?_⟩, ?_⟩
      · rw [List.foldl_cons, Entry.next_some he]
        exact hserves.holds
      · intro hall
        obtain ⟨f, hf⟩ := hall _ List.mem_cons_self
        cases hf
      · rw [List.foldl_cons, Entry.next_some he]
        exact hserves.keys
      · rcases hasks with ⟨rfl, hdue⟩ | ⟨⟨m, rfl⟩, hdue⟩
        · refine .loading rfl fun e' he' => ?_
          rw [he] at he'
          cases he'
          exact hdue
        · exact .loadingDue rfl he hdue
    · exact lost (by rw [hc]; exact hk) (by rw [hc]; exact he)

/-- One use of a session serves the entry that the session holds. -/
theorem keys_serves {s s' : Session} {entry : Option Entry} (hh : Holds s.held entry) {p p' : σ}
    {notes notes' : List Note} {w w' : World} (hw : Recheckable w.clock)
    {answer : Except Failure Keys}
    (h : s.keys (noted ask) (p, notes) w = (answer, s', (p', notes'), w')) :
    w'.clock = w.clock ∧ ∃ more, notes' = notes ++ more ∧
      Serves entry w.clock s.held s'.held more answer ∧ Asks entry w.clock more := by
  cases hs : s.held with
  | none =>
    rw [hs] at hh
    cases hh
    exact keys_serves_unloaded hask hs hw h
  | some held =>
    have hl : load (noted ask) s (p, notes) w = (.ok held, s, (p, notes), w) := by
      simp only [load, hs]
    unfold keys at h
    rw [hl] at h
    rw [hs] at hh
    obtain ⟨e, rfl⟩ : ∃ e, entry = some e := by
      cases hh with
      | fixed k => exact ⟨_, rfl⟩
      | leased k hd => exact ⟨_, rfl⟩
    obtain ⟨ht, more, hn, hserves, hasks⟩ := useHeld_serves hask hh hs hw h
    refine ⟨ht, more, hn, hserves, ?_⟩
    rcases hasks with ⟨rfl, hdue⟩ | ⟨⟨n, rfl⟩, hdue⟩
    · exact .idle rfl hdue
    · exact .renewing rfl hdue

end Steady

/-! ### Notes make no difference -/

section View

variable {τ : Type} (view : τ → σ) {ask : Asking σ} {ask' : Asking τ}
  (hview : ∀ y w, ask (view y) w = ((ask' y w).1, view (ask' y w).2.1, (ask' y w).2.2))

include hview

theorem fetch_view (y : τ × World) : fetch ask (view y.1, y.2) =
    ((fetch ask' y).1, view (fetch ask' y).2.1, (fetch ask' y).2.2) := by
  unfold fetch
  dsimp only
  rw [hview]
  rcases ask' y.1 y.2 with ⟨answer, q, v⟩
  cases answer <;> rfl

theorem useHeld_view (held : SessionKeys) (s : Session) (y : τ) (w : World) :
    useHeld ask held s (view y) w =
      ((useHeld ask' held s y w).1, (useHeld ask' held s y w).2.1,
        view (useHeld ask' held s y w).2.2.1, (useHeld ask' held s y w).2.2.2) := by
  cases held with
  | fixed k => rfl
  | leased l =>
    have hmap : l.use method (fun x : σ × World => x.2.clock) (fetch ask) (view y, w) = _ :=
      Lease.use_map (fun x : τ × World => (view x.1, x.2)) method (fun _ => rfl)
        (fetch_view view hview) l (y, w)
    dsimp only [useHeld]
    rw [hmap]

/-- A session sees of its provider only what it answers. -/
theorem keys_view (s : Session) (y : τ) (w : World) : s.keys ask (view y) w =
    ((s.keys ask' y w).1, (s.keys ask' y w).2.1, view (s.keys ask' y w).2.2.1,
      (s.keys ask' y w).2.2.2) := by
  unfold keys load
  cases s.held with
  | some held => exact useHeld_view view hview held s y w
  | none =>
    dsimp only
    rw [hview]
    rcases ask' y w with ⟨answer, q, v⟩
    cases answer with
    | error f => rfl
    | ok c =>
      dsimp only
      cases keysOf c with
      | error f => rfl
      | ok held => exact useHeld_view view hview held _ q v

end View

def dropNotes {α : Type} (r : α × Session × (σ × List Note) × World) :
    α × Session × σ × World := (r.1, r.2.1, r.2.2.1.1, r.2.2.2)

theorem keys_noted (ask : Asking σ) (s : Session) (p : σ) (notes : List Note) (w : World) :
    s.keys ask p w = dropNotes (s.keys (noted ask) (p, notes) w) :=
  keys_view Prod.fst (fun _ _ => rfl) s (p, notes) w

section Respects

variable {R : σ × World → σ × World → Prop} (refl : ∀ x, R x x) {ask : Asking σ}
  (hask : ∀ x, R x (ask x.1 x.2).2)

include refl hask

theorem useHeld_respects (held : SessionKeys) (s : Session) (p : σ) (w : World) :
    R (p, w) (useHeld ask held s p w).2.2 := by
  cases held with
  | fixed k => exact refl _
  | leased l =>
    have hfetch (y : σ × World) : R y (fetch ask y).2 := by
      have hy := hask y
      unfold fetch
      rcases ha : ask y.1 y.2 with ⟨answer, q, v⟩
      rw [ha] at hy
      cases answer <;> exact hy
    exact Lease.use_respects refl method (fun y => y.2.clock) hfetch l (p, w)

theorem load_respects (s : Session) (p : σ) (w : World) : R (p, w) (s.load ask p w).2.2 := by
  have hp := hask (p, w)
  unfold load
  cases s.held with
  | some held => exact refl _
  | none =>
    dsimp only at hp ⊢
    rcases ha : ask p w with ⟨answer, q, v⟩
    rw [ha] at hp
    cases answer with
    | error f => exact hp
    | ok c =>
      dsimp only
      cases keysOf c <;> exact hp

/-- What asking the provider once does to it and its world, at most, a use of a session does. -/
theorem keys_respects (trans : ∀ {x y z}, R x y → R y z → R x z) (s : Session) (p : σ)
    (w : World) : R (p, w) (s.keys ask p w).2.2 := by
  have hl := load_respects refl hask s p w
  unfold keys
  rcases hloaded : s.load ask p w with ⟨failure | held, s', q, v⟩
  · rw [hloaded] at hl
    exact hl
  · rw [hloaded] at hl
    exact trans hl (useHeld_respects refl hask held s' q v)

end Respects

/-! ### Runs -/

inductive Turn
  | use
  | wait (micros : Nat)

/-- One turn. A use may fail; what counts here is what it leaves. -/
def turn (ask : Asking σ) (t : Turn) (x : Session × σ × World) : Session × σ × World :=
  match t with
  | .use => (x.1.keys ask x.2.1 x.2.2).2
  | .wait micros => (x.1, x.2.1, x.2.2.advance micros)

def run (ask : Asking σ) (turns : List Turn) (x : Session × σ × World) : Session × σ × World :=
  turns.foldl (fun x t => turn ask t x) x

theorem run_view {τ : Type} (view : τ → σ) {ask : Asking σ} {ask' : Asking τ}
    (hview : ∀ y w, ask (view y) w = ((ask' y w).1, view (ask' y w).2.1, (ask' y w).2.2))
    (turns : List Turn) (s : Session) (y : τ) (w : World) : run ask turns (s, view y, w) =
      ((run ask' turns (s, y, w)).1, view (run ask' turns (s, y, w)).2.1,
        (run ask' turns (s, y, w)).2.2) := by
  induction turns generalizing s y w with
  | nil => rfl
  | cons t rest ih =>
    cases t with
    | use =>
      have hk := keys_view view hview s y w
      simp only [run, List.foldl_cons, turn] at ih ⊢
      rw [hk]
      exact ih _ _ _
    | wait micros => exact ih s y (w.advance micros)

theorem run_noted (ask : Asking σ) (turns : List Turn) (s : Session) (p : σ) (notes : List Note)
    (w : World) : run ask turns (s, p, w) =
      ((run (noted ask) turns (s, (p, notes), w)).1,
        (run (noted ask) turns (s, (p, notes), w)).2.1.1,
        (run (noted ask) turns (s, (p, notes), w)).2.2) :=
  run_view Prod.fst (fun _ _ => rfl) turns s (p, notes) w

theorem Steady.noted {ask : Asking σ} (h : Steady ask) : Steady (noted ask) where
  clock p w := h.clock p.1 w
  calendar p w c t hc ht := h.calendar p.1 w c t hc ht
  aware p w c t hc ht := h.aware p.1 w c t hc ht

theorem run_respects {R : σ × World → σ × World → Prop} (refl : ∀ x, R x x)
    (trans : ∀ {x y z}, R x y → R y z → R x z) {ask : Asking σ}
    (hask : ∀ x, R x (ask x.1 x.2).2)
    (hwait : ∀ p w (micros : Nat), R (p, w) (p, w.advance micros)) (turns : List Turn)
    (x : Session × σ × World) : R x.2 (run ask turns x).2 := by
  induction turns generalizing x with
  | nil => exact refl _
  | cons t rest ih =>
    refine trans ?_ (ih (turn ask t x))
    cases t with
    | use => exact keys_respects refl hask trans x.1 x.2.1 x.2.2
    | wait micros => exact hwait x.2.1 x.2.2 micros

theorem run_clock {ask : Asking σ} (hask : Steady ask) (turns : List Turn)
    (x : Session × σ × World) : x.2.2.clock ≤ (run ask turns x).2.2.clock := by
  refine run_respects (R := fun x y => x.2.clock ≤ y.2.clock) (fun _ => Int.le_refl _)
    Int.le_trans (fun x => Int.le_of_eq (hask.clock x.1 x.2).symm) (fun p w micros => ?_) turns x
  show w.clock ≤ w.clock + micros
  omega

theorem run_holds {ask : Asking σ} (hask : Steady ask) {turns : List Turn} {s : Session} {p : σ}
    {notes : List Note} {w : World} (hs : Holds s.held (Entry.after notes))
    (hfirst : Timestamp.firstMoment ≤ w.clock)
    (hlast : (run (noted ask) turns (s, (p, notes), w)).2.2.clock + recheck <
      Timestamp.endMoment) :
    Holds (run (noted ask) turns (s, (p, notes), w)).1.held
      (Entry.after (run (noted ask) turns (s, (p, notes), w)).2.1.2) := by
  induction turns generalizing s p notes w with
  | nil => exact hs
  | cons t rest ih =>
    cases t with
    | use =>
      have hw : Recheckable w.clock := by
        have hle := run_clock hask.noted (.use :: rest) (s, (p, notes), w)
        exact ⟨hfirst, by dsimp only at hle; omega⟩
      rcases hk : s.keys (noted ask) (p, notes) w with ⟨answer, s', ⟨p', notes'⟩, w'⟩
      obtain ⟨ht, more, rfl, hserves, _⟩ := keys_serves hask hs hw hk
      have hrun : run (noted ask) (.use :: rest) (s, (p, notes), w) =
          run (noted ask) rest (s', (p', notes ++ more), w') := by
        simp only [run, List.foldl_cons, turn, hk]
      rw [hrun] at hlast ⊢
      refine ih ?_ (by rw [ht]; exact hfirst) hlast
      rw [Entry.after_append]
      exact hserves.holds
    | wait micros =>
      have hadvance : Timestamp.firstMoment ≤ (w.advance micros).clock := by
        show Timestamp.firstMoment ≤ w.clock + micros
        omega
      exact ih hs hadvance hlast

/-- A session is a cache of one entry over its provider. After any run it holds the entry that the
answers so far have made, and the next use asks, stores and hands out as such a cache does; keys
that are handed out are those of the last answer that was stored, and have not expired. -/
theorem run_serves {ask : Asking σ} (hask : Steady ask) {s s' s'' : Session} {p p' p'' : σ}
    {w w' w'' : World} {turns : List Turn} {notes notes' : List Note}
    {answer : Except Failure Keys} (hs : s.held = none)
    (hfirst : Timestamp.firstMoment ≤ w.clock)
    (hlast : w'.clock + recheck < Timestamp.endMoment)
    (hr : run (noted ask) turns (s, (p, []), w) = (s', (p', notes), w'))
    (hk : s'.keys (noted ask) (p', notes) w' = (answer, s'', (p'', notes'), w'')) :
    run ask turns (s, p, w) = (s', p', w') ∧ s'.keys ask p' w' = (answer, s'', p'', w'') ∧
      Holds s'.held (Entry.after notes) ∧ Holds s''.held (Entry.after notes') ∧
      ∃ more, notes' = notes ++ more ∧ Asks (Entry.after notes) w'.clock more ∧
        ((∀ n ∈ more, ∃ f, n.answer = .error f) → s''.held = s'.held) ∧
        ∀ k, answer = .ok k → ∃ e : Entry, e.ComesFrom notes' ∧ e.keys = k ∧
          s''.expiration.bind Timestamp.instant? = e.deadline ∧
          (s''.expiration = none ↔ e.deadline = none) ∧
          ∀ d, e.deadline = some d → w'.clock ≤ d := by
  have hrun := run_noted ask turns s p [] w
  have hkeys := keys_noted ask s' p' notes w'
  have hle := run_clock hask.noted turns (s, (p, []), w)
  have hholds : Holds s'.held (Entry.after notes) := by
    have h : Holds (run (noted ask) turns (s, (p, []), w)).1.held
        (Entry.after (run (noted ask) turns (s, (p, []), w)).2.1.2) :=
      run_holds hask (by rw [hs]; exact .unloaded) hfirst (by rw [hr]; exact hlast)
    rw [hr] at h
    exact h
  rw [hr] at hrun hle
  rw [hk] at hkeys
  have hw : Recheckable w'.clock := ⟨by dsimp only at hle; omega, hlast⟩
  obtain ⟨_, more, rfl, hserves, hasks⟩ := keys_serves hask hholds hw hk
  have hafter := Entry.after_append notes more
  refine ⟨hrun, hkeys, hholds, ?_, more, rfl, hasks, hserves.unchanged, ?_⟩
  · rw [hafter]
    exact hserves.holds
  · intro k hans
    obtain ⟨e, he, hek, hdeadline⟩ := hserves.keys k hans
    have hheld := hserves.holds
    rw [he] at hheld
    obtain ⟨hexp, hnone⟩ := hheld.expiration
    exact ⟨e, Entry.comesFrom (hafter.trans he), hek, hexp, hnone, hdeadline⟩

def shortKeys : Keys := ⟨.text "ASIASHORT", .text "short-secret", .text "short-token"⟩

def lastingKeys : Keys := ⟨.text "AKIALASTING", .text "lasting-secret", .absent⟩

/-- A provider that has no keys at first, then keys for ten minutes, then keys for good, and then
none again. -/
def wavering : Asking Nat
  | 0, w => (.error (.metadata "no role"), 1, w)
  | 1, w => (.ok ⟨shortKeys, some (.ofInstant (600 * Time.second)), none⟩, 2, w)
  | 2, w => (.ok ⟨lastingKeys, none, none⟩, 3, w)
  | n, w => (.error (.metadata "no role"), n, w)

set_option maxRecDepth 20000 in
/-- Keys for good that a provider handed out in place of short-lived ones are used for an hour; a
quarter of an hour before that the provider is asked again, and its failure is passed over. -/
theorem run_serves_wavering :
    ∃ s' s'' p' p'' w' w'' notes notes' answer, answer = .ok lastingKeys ∧
      run (noted wavering) [.use, .use, .wait 2700000001] ({}, (0, []), {}) =
        (s', (p', notes), w') ∧
      s'.keys (noted wavering) (p', notes) w' = (answer, s'', (p'', notes'), w'') ∧
      run wavering [.use, .use, .wait 2700000001] ({}, 0, {}) = (s', p', w') ∧
      s'.keys wavering p' w' = (answer, s'', p'', w'') ∧
      Holds s'.held (Entry.after notes) ∧ Holds s''.held (Entry.after notes') ∧
      ∃ more, notes' = notes ++ more ∧ Asks (Entry.after notes) w'.clock more ∧
        ((∀ n ∈ more, ∃ f, n.answer = .error f) → s''.held = s'.held) ∧
        ∀ k, answer = .ok k → ∃ e : Entry, e.ComesFrom notes' ∧ e.keys = k ∧
          s''.expiration.bind Timestamp.instant? = e.deadline ∧
          (s''.expiration = none ↔ e.deadline = none) ∧
          ∀ d, e.deadline = some d → w'.clock ≤ d := by
  have hask : Steady wavering := by
    have short {p : Nat} {w : World} {c : Credentials} {t : Timestamp}
        (hc : (wavering p w).1 = .ok c) (ht : c.expiration = some t) :
        t = .ofInstant (600 * Time.second) := by
      unfold wavering at hc
      split at hc
      · cases hc
      · cases hc
        exact (Option.some.inj ht).symm
      · cases hc
        cases ht
      · cases hc
    refine ⟨?_, ?_, ?_⟩
    · intro p w
      unfold wavering
      split <;> rfl
    · intro p w c t hc ht
      rw [short hc ht]
      exact ⟨by decide, by decide, fun o ho => by cases ho; decide⟩
    · intro p w c t hc ht
      rw [short hc ht]
      decide
  exact ⟨_, _, _, _, _, _, _, _, _, rfl, rfl, rfl,
    run_serves hask rfl (by decide) (by decide) rfl rfl⟩

end CloudCredentials.Session
