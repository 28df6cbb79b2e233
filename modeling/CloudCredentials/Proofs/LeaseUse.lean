import CloudCredentials.Lease

/-!
# What the use of a lease can do

The ways in which a delivery is taken over and in which a lease is used, each with what it needs
and what it leaves. What other modules say about leases they say by these cases; the definitions
are opened here only.
-/

namespace CloudCredentials

/-! ### Expiries -/

/-- The time that a delivered expiry shows can be compared with the clock and is not past. -/
def Time.Timestamp.IsAhead (t : Time.Timestamp) (now : Int) : Prop :=
  ∃ e, t.instant? = some e ∧ now ≤ e

/-! ### What deliveries bring -/

/-- A delivery has all its fields; they are these keys and an expiry that shows this time. -/
def Delivery.Brings (d : Delivery) (keys : Keys) (t : Time.Timestamp) : Prop :=
  ∃ field, d.parts? = some (keys, field) ∧ field.read = .ok t

theorem Delivery.parts?_eq_none_iff (d : Delivery) : d.parts? = none ↔ d.missing ≠ [] := by
  obtain ⟨accessKey, secretKey, token, expiry⟩ := d
  cases accessKey <;> cases secretKey <;> cases token <;> cases expiry <;> simp [parts?, missing]

theorem Delivery.Brings.missing {d : Delivery} {keys : Keys} {t : Time.Timestamp}
    (h : d.Brings keys t) : d.missing = [] := by
  obtain ⟨_, hp, _⟩ := h
  by_cases hm : d.missing = []
  · exact hm
  · rw [(parts?_eq_none_iff d).mpr hm] at hp
    cases hp

theorem Delivery.Brings.unique {d : Delivery} {keys keys' : Keys} {t t' : Time.Timestamp}
    (h : d.Brings keys t) (h' : d.Brings keys' t') : keys = keys' ∧ t = t' := by
  obtain ⟨field, hp, hr⟩ := h
  obtain ⟨field', hp', hr'⟩ := h'
  rw [hp] at hp'
  cases hp'
  rw [hr] at hr'
  cases hr'
  exact ⟨rfl, rfl⟩

namespace Lease

theorem fault?_eq_none_iff {t : Time.Timestamp} {now : Int} :
    fault? t now = none ↔ t.IsAhead now := by
  unfold fault? Time.Timestamp.IsAhead
  cases t.instant? with
  | none => simp
  | some e =>
    by_cases he : e < now
    · simp [he]
    · simp [he]
      omega

theorem fault?_cases {t : Time.Timestamp} {now : Int} {failure : Failure}
    (h : fault? t now = some failure) :
    (t.instant? = none ∧ failure = .mismatch .localTime) ∨
      ∃ e, t.instant? = some e ∧ e < now ∧ failure = .stillExpired := by
  unfold fault? at h
  cases hi : t.instant? with
  | none =>
    rw [hi] at h
    exact .inl ⟨rfl, (Option.some.inj h).symm⟩
  | some e =>
    rw [hi] at h
    by_cases he : e < now
    · exact .inr ⟨e, rfl, he, by simpa [he, eq_comm] using h⟩
    · simp [he] at h

/-! ### Taking over -/

inductive Storing (method : String) (l : Lease) (d : Delivery) (now : Int) :
    Except Failure Unit × Lease → Prop
  | incomplete (hp : d.parts? = none) :
    Storing method l d now (.error (.incompleteKeys method d.missing), l)
  | unreadable {keys : Keys} {field : ExpiryField} {failure : Failure}
    (hp : d.parts? = some (keys, field)) (hr : field.read = .error failure) :
    Storing method l d now (.error failure, l)
  | faulty {keys : Keys} {field : ExpiryField} {expiry : Time.Timestamp} {failure : Failure}
    (hp : d.parts? = some (keys, field)) (hr : field.read = .ok expiry)
    (hf : fault? expiry now = some failure) :
    Storing method l d now (.error failure, ⟨some keys, some expiry⟩)
  | stored {keys : Keys} {field : ExpiryField} {expiry : Time.Timestamp}
    (hp : d.parts? = some (keys, field)) (hr : field.read = .ok expiry)
    (hf : fault? expiry now = none) :
    Storing method l d now (.ok (), ⟨some keys, some expiry⟩)

theorem store_storing (method : String) (l : Lease) (d : Delivery) (now : Int) :
    Storing method l d now (l.store method d now) := by
  unfold store
  cases hp : d.parts? with
  | none => exact .incomplete hp
  | some parts =>
    obtain ⟨keys, field⟩ := parts
    dsimp only
    cases hr : field.read with
    | error failure => exact .unreadable hp hr
    | ok expiry =>
      dsimp only
      cases hf : fault? expiry now with
      | some failure => exact .faulty hp hr hf
      | none => exact .stored hp hr hf

/-! ### Needs -/

theorem handOut_ok {l : Lease} {keys : Keys} (h : l.handOut = .ok keys) : l.keys = some keys := by
  unfold handOut at h
  split at h
  · cases h
    assumption
  · cases h

/-- A lease that needs no renewal holds keys; their expiry, if there is one, is far enough. -/
theorem need_unneeded {l : Lease} {now : Int} (h : l.need now = .ok .unneeded) :
    ∃ keys, l.keys = some keys ∧
      ∀ t, l.expiry = some t → ∃ e, t.instant? = some e ∧ renewalLimit ≤ e - now := by
  unfold need at h
  cases hk : l.keys with
  | none => simp [hk] at h
  | some keys =>
    refine ⟨keys, rfl, ?_⟩
    intro t ht
    simp only [hk, ht] at h
    cases hi : t.instant? with
    | none => simp [hi] at h
    | some e =>
      simp only [hi, Except.ok.injEq] at h
      exact ⟨e, rfl, (Need.ofLeft_eq_unneeded_iff _).mp h⟩

/-- A lease in the advisory period holds keys that are not due for another while. -/
theorem need_advisory {l : Lease} {now : Int} (h : l.need now = .ok .advisory) :
    ∃ keys t e, l.keys = some keys ∧ l.expiry = some t ∧ t.instant? = some e ∧
      mandatoryLimit ≤ e - now ∧ e - now < renewalLimit := by
  unfold need at h
  cases hk : l.keys with
  | none => simp [hk] at h
  | some keys =>
    cases ht : l.expiry with
    | none => simp [hk, ht] at h
    | some t =>
      cases hi : t.instant? with
      | none => simp [hk, ht, hi] at h
      | some e =>
        simp only [hk, ht, hi, Except.ok.injEq] at h
        have hu : ¬ renewalLimit ≤ e - now := fun hl => by
          rw [(Need.ofLeft_eq_unneeded_iff _).mpr hl] at h
          cases h
        have hm : ¬ e - now < mandatoryLimit := fun hl => by
          rw [(Need.ofLeft_eq_mandatory_iff _).mpr hl] at h
          cases h
        exact ⟨keys, t, e, rfl, rfl, hi, by omega, by omega⟩

theorem need_error {l : Lease} {now : Int} {failure : Failure} :
    l.need now = .error failure ↔
      (∃ keys t, l.keys = some keys ∧ l.expiry = some t ∧ t.instant? = none) ∧
        failure = .mismatch .localTime := by
  unfold need
  cases hk : l.keys with
  | none => simp
  | some keys =>
    cases ht : l.expiry with
    | none => simp
    | some t =>
      cases hi : t.instant? with
      | none => simp [hi, eq_comm]
      | some e => simp [hi]

/-! ### Leases that are due -/

/-- A use of the lease at this instant fetches. -/
def IsDue (l : Lease) (now : Int) : Prop := ∃ need, l.need now = .ok need ∧ need ≠ .unneeded

theorem isDue_of_mandatory {l : Lease} {now : Int} (h : l.need now = .ok .mandatory) :
    l.IsDue now := ⟨_, h, Need.noConfusion⟩

theorem isDue_of_advisory {l : Lease} {now : Int} (h : l.need now = .ok .advisory) :
    l.IsDue now := ⟨_, h, Need.noConfusion⟩

theorem isDue_iff {keys : Keys} {t : Time.Timestamp} {now : Int} :
    IsDue ⟨some keys, some t⟩ now ↔ ∃ e, t.instant? = some e ∧ e - now < renewalLimit := by
  unfold IsDue
  cases ht : t.instant? with
  | none =>
    have hn : need ⟨some keys, some t⟩ now = .error (.mismatch .localTime) :=
      need_error.mpr ⟨⟨keys, t, rfl, rfl, ht⟩, rfl⟩
    simp [hn]
  | some e =>
    have hn : need ⟨some keys, some t⟩ now = .ok (Need.ofLeft (e - now)) := by
      simp only [need, ht]
    rw [hn]
    constructor
    · rintro ⟨_, hneed, hu⟩
      cases hneed
      exact ⟨e, rfl, Int.not_le.mp fun hfar => hu ((Need.ofLeft_eq_unneeded_iff _).mpr hfar)⟩
    · rintro ⟨_, he, hnear⟩
      cases he
      exact ⟨_, rfl, fun hu => Int.not_le.mpr hnear ((Need.ofLeft_eq_unneeded_iff _).mp hu)⟩

theorem IsDue.later {l : Lease} {now later : Int} (h : l.IsDue now) (hle : now ≤ later) :
    l.IsDue later := by
  obtain ⟨_ | keys, _ | t⟩ := l
  · exact isDue_of_mandatory rfl
  · exact isDue_of_mandatory rfl
  · obtain ⟨_, hn, hu⟩ := h
    cases hn
    exact absurd rfl hu
  · obtain ⟨e, he, hnear⟩ := isDue_iff.mp h
    exact isDue_iff.mpr ⟨e, he, by omega⟩

/-! ### Using -/

variable {σ : Type}

inductive Using (method : String) (clock : σ → Int) (fetch : σ → Except Failure Delivery × σ)
    (l : Lease) (s : σ) : Except Failure Keys × Lease × σ → Prop
  | unclear {failure : Failure} (hn : l.need (clock s) = .error failure) :
    Using method clock fetch l s (.error failure, l, s)
  | kept (hn : l.need (clock s) = .ok .unneeded) :
    Using method clock fetch l s (l.handOut, l, s)
  | failed {failure : Failure} {s' : σ} (hn : l.need (clock s) = .ok .mandatory)
    (hf : fetch s = (.error failure, s')) :
    Using method clock fetch l s (.error failure, l, s')
  | passedOver {failure : Failure} {s' : σ} (hn : l.need (clock s) = .ok .advisory)
    (hf : fetch s = (.error failure, s')) :
    Using method clock fetch l s (l.handOut, l, s')
  | refused {need : Need} {d : Delivery} {s' : σ} {failure : Failure} {l' : Lease}
    (hn : l.need (clock s) = .ok need) (hu : need ≠ .unneeded) (hf : fetch s = (.ok d, s'))
    (hs : Storing method l d (clock s') (.error failure, l')) :
    Using method clock fetch l s (.error failure, l', s')
  | renewed {need : Need} {d : Delivery} {s' : σ} {keys : Keys} {field : ExpiryField}
    {expiry : Time.Timestamp} (hn : l.need (clock s) = .ok need) (hu : need ≠ .unneeded)
    (hf : fetch s = (.ok d, s')) (hp : d.parts? = some (keys, field))
    (hr : field.read = .ok expiry) (ha : expiry.IsAhead (clock s')) :
    Using method clock fetch l s (.ok keys, ⟨some keys, some expiry⟩, s')

section Taken

variable {method : String} {clock : σ → Int} {fetch : σ → Except Failure Delivery × σ}
  {l l' : Lease} {s s' : σ} {need : Need} {d : Delivery}

/-- A delivery that came back is taken over in the same way in both periods. -/
theorem Using.of_error {failure : Failure} (hn : l.need (clock s) = .ok need)
    (hu : need ≠ .unneeded) (hf : fetch s = (.ok d, s'))
    (hs : l.store method d (clock s') = (.error failure, l')) :
    Using method clock fetch l s (.error failure, l', s') := by
  have h := store_storing method l d (clock s')
  rw [hs] at h
  exact .refused hn hu hf h

theorem Using.of_ok (hn : l.need (clock s) = .ok need) (hu : need ≠ .unneeded)
    (hf : fetch s = (.ok d, s')) (hs : l.store method d (clock s') = (.ok (), l')) :
    Using method clock fetch l s (l'.handOut, l', s') := by
  have h := store_storing method l d (clock s')
  rw [hs] at h
  cases h with
  | stored hp hr ho => exact .renewed hn hu hf hp hr (fault?_eq_none_iff.mp ho)

end Taken

theorem use_using (method : String) (clock : σ → Int)
    (fetch : σ → Except Failure Delivery × σ) (l : Lease) (s : σ) :
    Using method clock fetch l s (l.use method clock fetch s) := by
  unfold use
  cases hn : l.need (clock s) with
  | error failure => exact .unclear hn
  | ok need =>
    cases need with
    | unneeded => exact .kept hn
    | advisory =>
      dsimp only
      rcases hf : fetch s with ⟨failure | d, s'⟩
      · exact .passedOver hn hf
      · dsimp only
        rcases hs : l.store method d (clock s') with ⟨failure | ⟨⟩, l'⟩
        · exact .of_error hn (by decide) hf hs
        · exact .of_ok hn (by decide) hf hs
    | mandatory =>
      dsimp only
      rcases hf : fetch s with ⟨failure | d, s'⟩
      · exact .failed hn hf
      · dsimp only
        rcases hs : l.store method d (clock s') with ⟨failure | ⟨⟩, l'⟩
        · exact .of_error hn (by decide) hf hs
        · exact .of_ok hn (by decide) hf hs

/-- The ways to come by keys: they were held and not due, they were held and a renewal ahead of
time has failed, or they were delivered just now. -/
theorem use_ok {method : String} {clock : σ → Int} {fetch : σ → Except Failure Delivery × σ}
    {l l' : Lease} {s s' : σ} {keys : Keys} (h : l.use method clock fetch s = (.ok keys, l', s')) :
    (l' = l ∧ s' = s ∧
      ∀ t, l.expiry = some t → ∃ e, t.instant? = some e ∧ renewalLimit ≤ e - clock s) ∨
    (l' = l ∧ l.IsDue (clock s) ∧ (∃ failure, fetch s = (.error failure, s')) ∧
      l.keys = some keys ∧
      ∃ t e, l.expiry = some t ∧ t.instant? = some e ∧ mandatoryLimit ≤ e - clock s) ∨
    ∃ d t, l.IsDue (clock s) ∧ fetch s = (.ok d, s') ∧ d.Brings keys t ∧ t.IsAhead (clock s') ∧
      l' = ⟨some keys, some t⟩ := by
  have hu := use_using method clock fetch l s
  rw [h] at hu
  generalize hr : (Except.ok keys, l', s') = r at hu
  cases hu with
  | unclear _ => cases hr
  | kept hn =>
    obtain ⟨_, hl, hs⟩ : _ ∧ l' = l ∧ s' = s := by simpa using hr
    obtain ⟨_, _, ht⟩ := need_unneeded hn
    exact .inl ⟨hl, hs, ht⟩
  | failed _ _ => cases hr
  | passedOver hn hf =>
    obtain ⟨held, t, e, hk, ht, hi, hm, _⟩ := need_advisory hn
    simp only [handOut, hk] at hr
    cases hr
    exact .inr (.inl ⟨rfl, isDue_of_advisory hn, ⟨_, hf⟩, hk, t, e, ht, hi, hm⟩)
  | refused _ _ _ _ => cases hr
  | renewed hn hu hf hp hr' ha =>
    cases hr
    exact .inr (.inr ⟨_, _, ⟨_, hn, hu⟩, hf, ⟨_, hp, hr'⟩, ha, rfl⟩)

/-- The ways to end in a failure: the expiry cannot be compared with the clock, keys that have to be
renewed could not be fetched, or what was fetched is refused. -/
theorem use_error {method : String} {clock : σ → Int} {fetch : σ → Except Failure Delivery × σ}
    {l l' : Lease} {s s' : σ} {failure : Failure}
    (h : l.use method clock fetch s = (.error failure, l', s')) :
    (l.need (clock s) = .error failure ∧ l' = l) ∨
    (l.need (clock s) = .ok .mandatory ∧ fetch s = (.error failure, s') ∧ l' = l) ∨
    ∃ need d, l.need (clock s) = .ok need ∧ need ≠ .unneeded ∧ fetch s = (.ok d, s') ∧
      Storing method l d (clock s') (.error failure, l') := by
  have hu := use_using method clock fetch l s
  rw [h] at hu
  generalize hr : (Except.error failure, l', s') = r at hu
  cases hu with
  | unclear hn =>
    cases hr
    exact .inl ⟨hn, rfl⟩
  | kept hn =>
    obtain ⟨keys, hk, _⟩ := need_unneeded hn
    simp only [handOut, hk] at hr
    cases hr
  | failed hn hf =>
    cases hr
    exact .inr (.inl ⟨hn, hf, rfl⟩)
  | passedOver hn _ =>
    obtain ⟨keys, _, _, hk, _⟩ := need_advisory hn
    simp only [handOut, hk] at hr
    cases hr
  | refused hn hu hf hs =>
    cases hr
    exact .inr (.inr ⟨_, _, hn, hu, hf, hs⟩)
  | renewed _ _ _ _ _ _ => cases hr

theorem keys_of_use {method : String} {clock : σ → Int} {fetch : σ → Except Failure Delivery × σ}
    {l l' : Lease} {s s' : σ} {keys : Keys} (h : l.use method clock fetch s = (.ok keys, l', s')) :
    l'.keys = some keys := by
  have hused := use_using method clock fetch l s
  rw [h] at hused
  generalize hr : (Except.ok keys, l', s') = r at hused
  cases hused with
  | unclear _ | failed _ _ | refused _ _ _ _ => cases hr
  | kept _ | passedOver _ _ =>
    obtain ⟨hk, rfl, _⟩ : Except.ok keys = l.handOut ∧ l' = l ∧ _ := by simpa using hr
    exact handOut_ok hk.symm
  | renewed _ _ _ _ _ _ =>
    cases hr
    rfl

/-- A use leaves the lease as it was, or holding what it has fetched. -/
theorem use_lease (method : String) (clock : σ → Int) (fetch : σ → Except Failure Delivery × σ)
    (l : Lease) (s : σ) :
    (l.use method clock fetch s).2.1 = l ∨ ∃ d keys t,
      fetch s = (.ok d, (l.use method clock fetch s).2.2) ∧ d.Brings keys t ∧
        (l.use method clock fetch s).2.1 = ⟨some keys, some t⟩ := by
  have hu := use_using method clock fetch l s
  generalize l.use method clock fetch s = r at hu
  cases hu with
  | unclear _ | kept _ | failed _ _ | passedOver _ _ => exact .inl rfl
  | refused _ _ hf hs =>
    cases hs with
    | incomplete _ | unreadable _ _ => exact .inl rfl
    | faulty hp hr _ => exact .inr ⟨_, _, _, hf, ⟨_, hp, hr⟩, rfl⟩
  | renewed _ _ hf hp hr _ => exact .inr ⟨_, _, _, hf, ⟨_, hp, hr⟩, rfl⟩

theorem use_respects {R : σ → σ → Prop} (refl : ∀ s, R s s) (method : String) (clock : σ → Int)
    {fetch : σ → Except Failure Delivery × σ} (hf : ∀ s, R s (fetch s).2) (l : Lease) (s : σ) :
    R s (l.use method clock fetch s).2.2 := by
  have fetched {delivered : Except Failure Delivery} {s' : σ} (h : fetch s = (delivered, s')) :
      R s s' := by
    have hs := hf s
    rwa [h] at hs
  have h := use_using method clock fetch l s
  generalize l.use method clock fetch s = r at h
  cases h with
  | unclear _ | kept _ => exact refl s
  | failed _ h | passedOver _ h => exact fetched h
  | refused _ _ h _ => exact fetched h
  | renewed _ _ h _ _ _ => exact fetched h

/-- A use sees of a state only its clock and what a fetch makes of it. -/
theorem use_map {τ : Type} (π : σ → τ) (method : String) {clock : σ → Int} {clock' : τ → Int}
    {fetch : σ → Except Failure Delivery × σ} {fetch' : τ → Except Failure Delivery × τ}
    (hc : ∀ s, clock' (π s) = clock s) (hf : ∀ s, fetch' (π s) = ((fetch s).1, π (fetch s).2))
    (l : Lease) (s : σ) : l.use method clock' fetch' (π s) =
      ((l.use method clock fetch s).1, (l.use method clock fetch s).2.1,
        π (l.use method clock fetch s).2.2) := by
  unfold use
  rw [hc, hf]
  rcases fetch s with ⟨delivered, s'⟩
  cases l.need (clock s) with
  | error failure => rfl
  | ok need =>
    cases delivered with
    | error failure =>
      cases need with
      | unneeded | advisory | mandatory => rfl
    | ok d =>
      dsimp only
      rw [hc]
      rcases l.store method d (clock s') with ⟨stored, l'⟩
      cases need with
      | unneeded => rfl
      | advisory | mandatory => cases stored <;> rfl

/-! ### Uses of leases that are due -/

variable {method : String} {clock : σ → Int} {fetch : σ → Except Failure Delivery × σ}
  {l l' : Lease} {s s' : σ}

theorem use_of_isDue (h : l.IsDue (clock s)) :
    (l.use method clock fetch s).2.2 = (fetch s).2 := by
  obtain ⟨need, hn, hu⟩ := h
  have hused := use_using method clock fetch l s
  generalize l.use method clock fetch s = r at hused
  cases hused with
  | unclear hn' =>
    rw [hn] at hn'
    cases hn'
  | kept hn' =>
    rw [hn] at hn'
    cases hn'
    exact absurd rfl hu
  | failed _ hf | passedOver _ hf => rw [hf]
  | refused _ _ hf _ => rw [hf]
  | renewed _ _ hf _ _ _ => rw [hf]

/-- What a use fetches that is due is held in place of what was held. -/
theorem use_of_brings {d : Delivery} {keys : Keys} {t : Time.Timestamp} (h : l.IsDue (clock s))
    (hf : fetch s = (.ok d, s')) (hb : d.Brings keys t) :
    (l.use method clock fetch s).2 = (⟨some keys, some t⟩, s') := by
  obtain ⟨need, hn, hu⟩ := h
  obtain ⟨field, hp, hr⟩ := hb
  have hs : (l.store method d (clock s')).2 = ⟨some keys, some t⟩ := by
    simp only [store, hp, hr]
    split <;> rfl
  rcases hstore : l.store method d (clock s') with ⟨failure | ⟨⟩, l'⟩
  all_goals
    rw [hstore] at hs
    subst hs
    unfold use
    cases need with
    | unneeded => exact absurd rfl hu
    | advisory | mandatory => simp only [hn, hf, hstore]

/-- Keys that a use fetches that is due, and that have not expired, are handed out. -/
theorem use_of_ahead {d : Delivery} {keys : Keys} {t : Time.Timestamp} (h : l.IsDue (clock s))
    (hf : fetch s = (.ok d, s')) (hb : d.Brings keys t) (ha : t.IsAhead (clock s')) :
    l.use method clock fetch s = (.ok keys, ⟨some keys, some t⟩, s') := by
  obtain ⟨need, hn, hu⟩ := h
  obtain ⟨field, hp, hr⟩ := hb
  have hstore : l.store method d (clock s') = (.ok (), ⟨some keys, some t⟩) := by
    simp only [store, hp, hr, fault?_eq_none_iff.mpr ha]
  unfold use
  cases need with
  | unneeded => exact absurd rfl hu
  | advisory | mandatory =>
    simp only [hn, hf, hstore]
    rfl

/-- What a use fetches that is due and lacks fields is reported, and the lease stays as it was. -/
theorem use_of_missing {d : Delivery} (h : l.IsDue (clock s)) (hf : fetch s = (.ok d, s'))
    (hm : d.missing ≠ []) :
    l.use method clock fetch s = (.error (.incompleteKeys method d.missing), l, s') := by
  obtain ⟨need, hn, hu⟩ := h
  have hstore : l.store method d (clock s') = (.error (.incompleteKeys method d.missing), l) :=
    store_incomplete ((Delivery.parts?_eq_none_iff d).mpr hm)
  unfold use
  cases need with
  | unneeded => exact absurd rfl hu
  | advisory | mandatory => simp only [hn, hf, hstore]

/-- A fetch that fails ends the use when the keys have to be renewed, and is passed over else. -/
theorem use_of_failed {failure : Failure} (hf : fetch s = (.error failure, s')) :
    (l.need (clock s) = .ok .mandatory →
        l.use method clock fetch s = (.error failure, l, s')) ∧
      (l.need (clock s) = .ok .advisory → l.use method clock fetch s = (l.handOut, l, s')) := by
  constructor
  · intro hn
    simp only [use, hn, hf]
    rfl
  · intro hn
    simp only [use, hn, hf]
    rfl

theorem use_of_not_isDue (h : ¬ l.IsDue (clock s)) : (l.use method clock fetch s).2 = (l, s) := by
  have hused := use_using method clock fetch l s
  generalize l.use method clock fetch s = r at hused
  cases hused with
  | unclear _ | kept _ => rfl
  | failed hn _ => exact absurd (isDue_of_mandatory hn) h
  | passedOver hn _ => exact absurd (isDue_of_advisory hn) h
  | refused hn hu _ _ => exact absurd ⟨_, hn, hu⟩ h
  | renewed hn hu _ _ _ _ => exact absurd ⟨_, hn, hu⟩ h

theorem not_isWrapped_of_readTime {d : Datum} {failure : Failure}
    (h : readTime d = .error failure) : failure.isWrapped = false := by
  unfold readTime at h
  split at h
  · split at h
    · cases h
    · cases h
      rfl
  · cases h
    rfl

theorem not_isWrapped_of_read {field : ExpiryField} {failure : Failure}
    (h : field.read = .error failure) : failure.isWrapped = false := by
  cases field with
  | time t =>
    simp only [ExpiryField.read] at h
    split at h
    · cases h
    · cases h
      rfl
  | field d => exact not_isWrapped_of_readTime h

theorem not_isWrapped_of_fault {t : Time.Timestamp} {now : Int} {failure : Failure}
    (h : fault? t now = some failure) : failure.isWrapped = false := by
  rcases fault?_cases h with ⟨_, rfl⟩ | ⟨_, _, _, rfl⟩
  · rfl
  · rfl

/-- A use that ends in a failure of the SDK or of the system has fetched, and has left the lease as
it was. -/
theorem use_of_isWrapped {failure : Failure}
    (h : l.use method clock fetch s = (.error failure, l', s')) (hf : failure.isWrapped = true) :
    l' = l ∧ l.IsDue (clock s) := by
  rcases use_error h with ⟨hn, _⟩ | ⟨hn, _, rfl⟩ | ⟨need, d, hn, hu, _, hs⟩
  · obtain ⟨_, rfl⟩ := need_error.mp hn
    cases hf
  · exact ⟨rfl, isDue_of_mandatory hn⟩
  · cases hs with
    | incomplete _ => exact ⟨rfl, _, hn, hu⟩
    | unreadable _ hread =>
      rw [not_isWrapped_of_read hread] at hf
      cases hf
    | faulty _ _ hfault =>
      rw [not_isWrapped_of_fault hfault] at hf
      cases hf

end Lease

end CloudCredentials
