import CloudCredentials.Time.Calendar

/-!
# Dates of days

The date of a day is a date of the calendar, and it lies that many days from the first day of
1970. This holds of all days of the years that have four digits.
-/

namespace CloudCredentials.Time

/-! ### Years -/

theorem daysBeforeYear_mono {a b : Nat} (h : a ≤ b) : daysBeforeYear a ≤ daysBeforeYear b := by
  induction h with
  | refl => exact Nat.le_refl _
  | @step m _ ih =>
    have hs : daysBeforeYear m ≤ daysBeforeYear (m + 1) := by
      unfold daysBeforeYear
      dsimp only
      omega
    exact Nat.le_trans ih hs

theorem le_daysBeforeYear (past : Nat) :
    146097 * past ≤ 400 * daysBeforeYear (past + 1) + 699 := by
  unfold daysBeforeYear
  simp only [Nat.add_sub_cancel]
  omega

def daysInYear (year : Nat) : Nat := 365 + if isLeapYear year then 1 else 0

theorem daysBeforeYear_succ {year : Nat} (h : 1 ≤ year) :
    daysBeforeYear (year + 1) = daysBeforeYear year + daysInYear year := by
  obtain ⟨past, rfl⟩ : ∃ past, year = past + 1 := ⟨year - 1, by omega⟩
  have next (k : Nat) (hk : 0 < k) :
      (past + 1) / k = past / k + if (past + 1) % k = 0 then 1 else 0 := by
    rw [Nat.succ_div]
    simp only [Nat.dvd_iff_mod_eq_zero]
  unfold daysBeforeYear daysInYear isLeapYear
  simp only [Nat.add_sub_cancel]
  rw [next 4 (by decide), next 100 (by decide), next 400 (by decide)]
  have hle : past / 100 ≤ past / 4 := Nat.div_le_div_left (by decide) (by decide)
  by_cases h4 : (past + 1) % 4 = 0
  · by_cases h100 : (past + 1) % 100 = 0
    · by_cases h400 : (past + 1) % 400 = 0
      · simp [h4, h100, h400]
        omega
      · simp [h4, h100, h400]
        omega
    · have h400 : (past + 1) % 400 ≠ 0 := by omega
      simp [h4, h100, h400]
      omega
  · have h100 : (past + 1) % 100 ≠ 0 := by omega
    have h400 : (past + 1) % 400 ≠ 0 := by omega
    simp [h4, h100, h400]
    omega

theorem getLast?_filter_range {p : Nat → Bool} {first : Nat} (hp : p first = true) (n : Nat) :
    ∃ y, (((List.range (n + 1)).map (first + ·)).filter p).getLast? = some y ∧ p y = true ∧
      first ≤ y ∧ (p (y + 1) = false ∨ y = first + n) := by
  induction n with
  | zero => exact ⟨first, by simp [hp], hp, Nat.le_refl _, .inr rfl⟩
  | succ n ih =>
    obtain ⟨y, hy, hpy, hle, hlast⟩ := ih
    rw [List.range_succ, List.map_append, List.filter_append]
    cases hn : p (first + (n + 1)) with
    | true =>
      refine ⟨first + (n + 1), ?_, hn, by omega, .inr rfl⟩
      simp [hn]
    | false =>
      refine ⟨y, ?_, hpy, hle, .inl ?_⟩
      · simp [hn, hy]
      · rcases hlast with h | rfl
        · exact h
        · exact hn

theorem yearOfDay_spec (day : Nat) :
    1 ≤ yearOfDay day ∧ daysBeforeYear (yearOfDay day) ≤ day ∧
      day < daysBeforeYear (yearOfDay day + 1) := by
  have hfirst : decide (daysBeforeYear (day / 366 + 1) ≤ day) = true := by
    rw [decide_eq_true_eq]
    unfold daysBeforeYear
    simp only [Nat.add_sub_cancel]
    omega
  obtain ⟨y, hy, hp, hle, hlast⟩ := getLast?_filter_range
    (p := fun y => decide (daysBeforeYear y ≤ day)) hfirst (day / 146000 + 2)
  have he : yearOfDay day = y := by
    unfold yearOfDay
    rw [show day / 146000 + 3 = day / 146000 + 2 + 1 from rfl]
    dsimp only
    rw [hy]
    rfl
  rw [he]
  refine ⟨by omega, decide_eq_true_eq.mp hp, ?_⟩
  rcases hlast with h | rfl
  · exact Nat.lt_of_not_le (decide_eq_false_iff_not.mp h)
  · have hyears := le_daysBeforeYear (day / 366 + 1 + (day / 146000 + 2))
    omega

/-! ### Months -/

theorem daysBeforeMonth_succ (year : Nat) {month : Nat} (h : 1 ≤ month) :
    daysBeforeMonth year (month + 1) = daysBeforeMonth year month + daysInMonth year month := by
  obtain ⟨past, rfl⟩ : ∃ past, month = past + 1 := ⟨month - 1, by omega⟩
  unfold daysBeforeMonth
  simp only [Nat.add_sub_cancel, List.range_succ, List.foldl_append, List.foldl_cons,
    List.foldl_nil]

theorem daysBeforeMonth_thirteen (year : Nat) : daysBeforeMonth year 13 = daysInYear year := by
  unfold daysBeforeMonth daysInYear daysInMonth
  cases isLeapYear year <;> rfl

theorem monthAndDay_spec (year fuel month rest : Nat) (hm : 1 ≤ month) (hf : month + fuel = 13)
    (hr : daysBeforeMonth year month + rest < daysInYear year) :
    1 ≤ (monthAndDay year fuel month rest).1 ∧ (monthAndDay year fuel month rest).1 ≤ 12 ∧
      1 ≤ (monthAndDay year fuel month rest).2 ∧
      (monthAndDay year fuel month rest).2 ≤
        daysInMonth year (monthAndDay year fuel month rest).1 ∧
      daysBeforeMonth year (monthAndDay year fuel month rest).1 +
        (monthAndDay year fuel month rest).2 = daysBeforeMonth year month + rest + 1 := by
  induction fuel generalizing month rest with
  | zero =>
    have hend : month = 13 := by omega
    rw [hend, daysBeforeMonth_thirteen] at hr
    omega
  | succ fuel ih =>
    unfold monthAndDay
    by_cases hl : rest < daysInMonth year month
    · rw [if_pos hl]
      exact ⟨hm, by omega, by omega, hl, rfl⟩
    · rw [if_neg hl]
      have hs := daysBeforeMonth_succ year hm
      have hnext := ih (month + 1) (rest - daysInMonth year month) (by omega) (by omega) (by omega)
      obtain ⟨h1, h2, h3, h4, h5⟩ := hnext
      exact ⟨h1, h2, h3, h4, by omega⟩

/-! ### Dates -/

/-- The date of a day is a date of the calendar, and it is the date of that day only. -/
theorem Date.ofDays_spec {days : Int} (hfirst : -719162 ≤ days) (hlast : days < 2932897) :
    Date.checked (ofDays days).year (ofDays days).month (ofDays days).day = .ok (ofDays days) ∧
      (ofDays days).toDays = days := by
  obtain ⟨day, hday⟩ : ∃ day : Nat, days + epochDay = day :=
    ⟨(days + epochDay).toNat, by unfold epochDay; omega⟩
  obtain ⟨hy1, hle, hlt⟩ := yearOfDay_spec day
  have hy2 : yearOfDay day ≤ 9999 := by
    have h : daysBeforeYear 10000 = 3652059 := by decide
    have hmono := @daysBeforeYear_mono 10000 (yearOfDay day)
    unfold epochDay at hday
    omega
  have hsucc := daysBeforeYear_succ hy1
  have hzero : daysBeforeMonth (yearOfDay day) 1 = 0 := rfl
  obtain ⟨hm1, hm2, hd1, hd2, hsum⟩ := monthAndDay_spec (yearOfDay day) 12 1
    (day - daysBeforeYear (yearOfDay day)) (by omega) (by omega) (by omega)
  have he : ofDays days = ⟨yearOfDay day,
      (monthAndDay (yearOfDay day) 12 1 (day - daysBeforeYear (yearOfDay day))).1,
      (monthAndDay (yearOfDay day) 12 1 (day - daysBeforeYear (yearOfDay day))).2⟩ := by
    unfold ofDays
    rw [hday]
    rfl
  rw [he]
  constructor
  · unfold checked
    dsimp only
    rw [if_neg (by omega), if_neg (by omega), if_neg (by omega)]
  · unfold toDays
    dsimp only
    rw [hzero] at hsum
    omega

end CloudCredentials.Time
