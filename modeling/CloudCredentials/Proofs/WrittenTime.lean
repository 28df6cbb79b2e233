import CloudCredentials.Proofs.Dates
import CloudCredentials.Time.Reading
import Mathlib.Algebra.Group.Nat.Defs

/-!
# Reading what was written

The written form of a timestamp of the calendar reads as that timestamp. The one exception is an
offset that is not in whole minutes: it is written with its seconds, and no timestamp is read.
-/

namespace CloudCredentials

/-! ### Texts without blanks -/

theorem Text.trim_of_all {cs : List Char} (h : ∀ c ∈ cs, isBlankChar c = false) : trim cs = cs := by
  have left {l : List Char} (hl : ∀ c ∈ l, isBlankChar c = false) :
      l.dropWhile isBlankChar = l := by
    cases l with
    | nil => rfl
    | cons c rest => rw [List.dropWhile_cons, hl c List.mem_cons_self, if_neg Bool.false_ne_true]
  have hr : ∀ c ∈ cs.reverse, isBlankChar c = false := fun c hc => h c (List.mem_reverse.mp hc)
  unfold trim trimRight trimLeft dropRightWhile
  rw [left h, left hr, List.reverse_reverse]

namespace Time

/-! ### Numbers of a fixed width -/

/-- The characters of a number that is filled up with zeros. -/
def paddedChars (width n : Nat) : List Char :=
  List.replicate (width - (Nat.toDigits 10 n).length) '0' ++ Nat.toDigits 10 n

theorem toList_padded (width n : Nat) : (padded width n).toList = paddedChars width n := by
  simp only [padded, paddedChars, String.toList_ofList]

theorem isDigit_of_mem_paddedChars {width n : Nat} {c : Char} (h : c ∈ paddedChars width n) :
    c.isDigit = true := by
  rcases List.mem_append.mp h with h | h
  · rw [List.eq_of_mem_replicate h]
    rfl
  · exact Nat.isDigit_of_mem_toDigits (by decide) (by decide) h

theorem length_paddedChars {width n : Nat} (hw : 0 < width) (hn : n < 10 ^ width) :
    (paddedChars width n).length = width := by
  have hl := (Nat.length_toDigits_le_iff (b := 10) (by decide) hw).mpr hn
  simp only [paddedChars, List.length_append, List.length_replicate]
  omega

theorem paddedChars_eq_cons {width n : Nat} (hw : 0 < width) (hn : n < 10 ^ width) :
    ∃ c cs, paddedChars width n = c :: cs := by
  have hl := length_paddedChars hw hn
  cases hp : paddedChars width n with
  | nil =>
    rw [hp] at hl
    simp only [List.length_nil] at hl
    omega
  | cons c cs => exact ⟨c, cs, rfl⟩

theorem value_paddedChars (width n : Nat) : Nat.ofDigitChars 10 (paddedChars width n) 0 = n := by
  simp only [paddedChars, Nat.ofDigitChars_append, Nat.ofDigitChars_replicate_zero, Nat.mul_zero,
    Nat.ofDigitChars_ten_toDigits]

theorem digits?_append {cs : List Char} (h : ∀ c ∈ cs, c.isDigit = true) (rest : List Char)
    (n : Nat) : digits? cs.length (cs ++ rest) n = some (Nat.ofDigitChars 10 cs n, rest) := by
  induction cs generalizing n with
  | nil => rfl
  | cons c cs ih =>
    have hc := h c List.mem_cons_self
    simp only [List.length_cons, List.cons_append, digits?, hc, if_true]
    rw [ih fun d hd => h d (List.mem_cons_of_mem _ hd), Nat.ofDigitChars_cons, Nat.mul_comm n 10]

theorem number?_padded {width n : Nat} (hw : 0 < width) (hn : n < 10 ^ width)
    (rest : List Char) : number? width (paddedChars width n ++ rest) = some (n, rest) := by
  have hd : ∀ c ∈ paddedChars width n, c.isDigit = true :=
    fun c hc => isDigit_of_mem_paddedChars hc
  have h := digits?_append hd rest 0
  rw [length_paddedChars hw hn, value_paddedChars] at h
  exact h

/-! ### Parts of a timestamp -/

theorem dateParts?_written {year month dayOfMonth : Nat} (hy : year < 10000) (hm : month < 100)
    (hd : dayOfMonth < 100) (rest : List Char) :
    dateParts? (paddedChars 4 year ++ '-' :: (paddedChars 2 month ++
      '-' :: (paddedChars 2 dayOfMonth ++ rest))) = some ((year, month, dayOfMonth), rest) := by
  have hyear (cs : List Char) : number? 4 (paddedChars 4 year ++ cs) = some (year, cs) :=
    number?_padded (by decide) hy cs
  have hmonth (cs : List Char) : number? 2 (paddedChars 2 month ++ cs) = some (month, cs) :=
    number?_padded (by decide) hm cs
  have hday (cs : List Char) :
      number? 2 (paddedChars 2 dayOfMonth ++ cs) = some (dayOfMonth, cs) :=
    number?_padded (by decide) hd cs
  simp [dateParts?, hyear, hmonth, hday]

/-- What may follow a time of day: nothing, or a sign. -/
def IsEnding (cs : List Char) : Prop := cs = [] ∨ ∃ c rest, cs = c :: rest ∧ (c = '+' ∨ c = '-')

theorem microseconds_padded {micros : Nat} (h : micros < 1000000) :
    microseconds (paddedChars 6 micros) = micros := by
  have hl : (paddedChars 6 micros).length = 6 := length_paddedChars (by decide) h
  unfold microseconds
  rw [List.take_left' hl]
  have hv := value_paddedChars 6 micros
  unfold Nat.ofDigitChars at hv
  simp only [Nat.mul_comm 10] at hv
  exact hv

def fractionChars (micros : Nat) : List Char :=
  if micros = 0 then [] else '.' :: paddedChars 6 micros

theorem fraction_written {micros : Nat} (h : micros < 1000000) {rest : List Char}
    (hr : IsEnding rest) : fraction (fractionChars micros ++ rest) = (micros, rest) := by
  unfold fractionChars
  by_cases hz : micros = 0
  · rw [if_pos hz, hz, List.nil_append]
    rcases hr with rfl | ⟨c, rest, rfl, rfl | rfl⟩
    · rfl
    · rfl
    · rfl
  · have hdigits : ∀ c ∈ paddedChars 6 micros, c.isDigit = true :=
      fun c hc => isDigit_of_mem_paddedChars hc
    have hstop : rest.takeWhile Char.isDigit = [] ∧ rest.dropWhile Char.isDigit = rest := by
      rcases hr with rfl | ⟨c, rest, rfl, rfl | rfl⟩
      · exact ⟨rfl, rfl⟩
      · exact ⟨rfl, rfl⟩
      · exact ⟨rfl, rfl⟩
    have htake : (paddedChars 6 micros ++ rest).takeWhile Char.isDigit = paddedChars 6 micros := by
      rw [List.takeWhile_append_of_pos hdigits, hstop.1, List.append_nil]
    have hdrop : (paddedChars 6 micros ++ rest).dropWhile Char.isDigit = rest := by
      rw [List.dropWhile_append_of_pos hdigits, hstop.2]
    have hne : (paddedChars 6 micros).isEmpty = false := by
      obtain ⟨c, cs, hcs⟩ := paddedChars_eq_cons (by decide : 0 < 6) h
      rw [hcs]
      rfl
    rw [if_neg hz]
    simp only [List.cons_append, fraction, htake, hdrop, hne, microseconds_padded h]
    rfl

theorem timeOfDay?_written {t : TimeOfDay} (hh : t.hours < 100) (hm : t.minutes < 100)
    (hs : t.seconds < 100) (hf : t.micros < 1000000) {rest : List Char} (hr : IsEnding rest) :
    timeOfDay? (paddedChars 2 t.hours ++ ':' :: (paddedChars 2 t.minutes ++
      ':' :: (paddedChars 2 t.seconds ++ (fractionChars t.micros ++ rest)))) = some (t, rest) := by
  have hhours (cs : List Char) : number? 2 (paddedChars 2 t.hours ++ cs) = some (t.hours, cs) :=
    number?_padded (by decide) hh cs
  have hminutes (cs : List Char) :
      number? 2 (paddedChars 2 t.minutes ++ cs) = some (t.minutes, cs) :=
    number?_padded (by decide) hm cs
  have hseconds (cs : List Char) :
      number? 2 (paddedChars 2 t.seconds ++ cs) = some (t.seconds, cs) :=
    number?_padded (by decide) hs cs
  simp [timeOfDay?, hhours, hminutes, hseconds, fraction_written hf hr]

def offsetChars : Option Int → List Char
  | none => []
  | some o => (offsetText o).toList

def IsWhole (offset : Option Int) : Prop := ∀ o, offset = some o → o % 60 = 0

instance : DecidablePred IsWhole
  | none => isTrue fun _ h => by cases h
  | some o => decidable_of_iff (o % 60 = 0) ⟨fun h _ ho => by cases ho; exact h, fun h => h o rfl⟩

def IsShort (offset : Option Int) : Prop := ∀ o, offset = some o → -86400 < o ∧ o < 86400

theorem offsetChars_some (o : Int) :
    offsetChars (some o) = (if o < 0 then '-' else '+') :: (paddedChars 2 (o.natAbs / 3600) ++
      ':' :: (paddedChars 2 (o.natAbs / 60 % 60) ++
        if o.natAbs % 60 = 0 then [] else ':' :: paddedChars 2 (o.natAbs % 60))) := by
  have hsign : (if o < 0 then "-" else "+").toList = [if o < 0 then '-' else '+'] := by
    split <;> rfl
  have hseconds : (if o.natAbs % 60 = 0 then "" else ":" ++ padded 2 (o.natAbs % 60)).toList =
      if o.natAbs % 60 = 0 then [] else ':' :: paddedChars 2 (o.natAbs % 60) := by
    split
    · rfl
    · simp [toList_padded]
  simp only [offsetChars, offsetText, String.toList_append, hsign, hseconds, toList_padded]
  simp

theorem offset_isEnding (offset : Option Int) : IsEnding (offsetChars offset) := by
  cases offset with
  | none => exact .inl rfl
  | some o =>
    rw [offsetChars_some]
    refine .inr ⟨_, _, rfl, ?_⟩
    split
    · exact .inr rfl
    · exact .inl rfl

theorem offset?_sign {c : Char} (hc : c = '+' ∨ c = '-') {hours minutes : Nat} (hh : hours < 100)
    (hm : minutes < 100) (rest : List Char) :
    offset? (c :: (paddedChars 2 hours ++ ':' :: (paddedChars 2 minutes ++ rest))) =
      if rest = [] then
        some (some (if c = '-' then -((hours * 3600 + minutes * 60 : Nat) : Int)
          else ((hours * 3600 + minutes * 60 : Nat) : Int)))
      else none := by
  have hhours (cs : List Char) : number? 2 (paddedChars 2 hours ++ cs) = some (hours, cs) :=
    number?_padded (by decide) hh cs
  have hminutes (cs : List Char) : number? 2 (paddedChars 2 minutes ++ cs) = some (minutes, cs) :=
    number?_padded (by decide) hm cs
  have hleft (cs : List Char) : Text.trimLeft (c :: cs) = c :: cs := by
    rcases hc with rfl | rfl <;> rfl
  obtain ⟨d, ds, hds⟩ := paddedChars_eq_cons (by decide : 0 < 2) hm
  have hend : number? 2 (d :: ds) = some (minutes, []) := by
    have h := hminutes []
    rwa [hds, List.append_nil] at h
  have hmore (cs : List Char) : number? 2 (d :: (ds ++ cs)) = some (minutes, cs) := by
    have h := hminutes cs
    rwa [hds, List.cons_append] at h
  rw [hds]
  unfold offset?
  rw [hleft]
  rcases hc with rfl | rfl
  · cases rest with
    | nil => simp [hhours, hend]
    | cons e rest => simp [hhours, hmore]
  · cases rest with
    | nil => simp [hhours, hend]
    | cons e rest => simp [hhours, hmore]

theorem offset?_written {offset : Option Int} (hs : IsShort offset) (hw : IsWhole offset) :
    offset? (offsetChars offset) = some offset := by
  cases offset with
  | none => rfl
  | some o =>
    obtain ⟨hlo, hhi⟩ := hs o rfl
    have hmod : o.natAbs % 60 = 0 := by
      have := hw o rfl
      omega
    have hsign : (if o < 0 then '-' else '+') = '+' ∨ (if o < 0 then '-' else '+') = '-' := by
      split
      · exact .inr rfl
      · exact .inl rfl
    rw [offsetChars_some, if_pos hmod, offset?_sign hsign (by omega) (by omega), if_pos rfl]
    congr 2
    by_cases hneg : o < 0
    · rw [if_pos hneg, if_pos rfl]
      omega
    · rw [if_neg hneg, if_neg (by decide)]
      omega

/-- An offset with seconds is not read. -/
theorem offset?_seconds {o : Int} (hs : IsShort (some o)) (hw : ¬ IsWhole (some o)) :
    offset? (offsetChars (some o)) = none := by
  obtain ⟨hlo, hhi⟩ := hs o rfl
  have hmod : o.natAbs % 60 ≠ 0 := by
    intro h
    refine hw fun o' ho => ?_
    cases ho
    omega
  have hsign : (if o < 0 then '-' else '+') = '+' ∨ (if o < 0 then '-' else '+') = '-' := by
    split
    · exact .inr rfl
    · exact .inl rfl
  rw [offsetChars_some, if_neg hmod, offset?_sign hsign (by omega) (by omega),
    if_neg (List.cons_ne_nil _ _)]

/-! ### Whole timestamps -/

theorem Date.bounds_of_checked {year month dayOfMonth : Nat} {d : Date}
    (h : checked year month dayOfMonth = .ok d) :
    year ≤ 9999 ∧ month ≤ 12 ∧ dayOfMonth ≤ 31 := by
  have hle := daysInMonth_le year month
  unfold checked at h
  split at h
  · cases h
  · split at h
    · cases h
    · split at h
      · cases h
      · omega

namespace Timestamp

/-- The first moment of year 1 and the first moment after year 9999. -/
def firstMoment : Int := -719162 * day

def endMoment : Int := 2932897 * day

/-- A timestamp of the calendar: a local time of a year with four digits, and an offset of less
than a day. -/
structure InCalendar (t : Timestamp) : Prop where
  first : firstMoment ≤ t.clock
  last : t.clock < endMoment
  short : IsShort t.offset

def timeOfDay (clock : Int) : TimeOfDay :=
  let s := (clock.fmod day / second).toNat
  ⟨s / 3600, s / 60 % 60, s % 60, (clock.fmod second).toNat⟩

theorem toList_text (t : Timestamp) : t.text.toList =
    paddedChars 4 (Date.ofDays (t.clock.fdiv day)).year ++
      '-' :: (paddedChars 2 (Date.ofDays (t.clock.fdiv day)).month ++
      '-' :: (paddedChars 2 (Date.ofDays (t.clock.fdiv day)).day ++
      'T' :: (paddedChars 2 (timeOfDay t.clock).hours ++
      ':' :: (paddedChars 2 (timeOfDay t.clock).minutes ++
      ':' :: (paddedChars 2 (timeOfDay t.clock).seconds ++
      (fractionChars (timeOfDay t.clock).micros ++ offsetChars t.offset)))))) := by
  have hfraction : (if (t.clock.fmod second).toNat = 0 then "" else
      "." ++ padded 6 (t.clock.fmod second).toNat).toList =
        fractionChars (timeOfDay t.clock).micros := by
    unfold fractionChars timeOfDay
    dsimp only
    split
    · rfl
    · simp [toList_padded]
  have hoffset : ((t.offset.map offsetText).getD "").toList = offsetChars t.offset := by
    cases t.offset <;> rfl
  simp only [text, String.toList_append, hfraction, hoffset, dateText, timeOfDayText,
    toList_padded]
  simp [timeOfDay]

theorem isBlankChar_of_isDigit {c : Char} (h : c.isDigit = true) : Text.isBlankChar c = false := by
  simp only [Char.isDigit, Bool.and_eq_true, decide_eq_true_eq] at h
  have h1 : 48 ≤ c.toNat := h.1
  have h2 : c.toNat ≤ 57 := h.2
  unfold Text.isBlankChar
  dsimp only
  simp
  omega

theorem text_plain (t : Timestamp) : ∀ c ∈ t.text.toList, Text.isBlankChar c = false := by
  have hnumber {width n : Nat} : ∀ c ∈ paddedChars width n, Text.isBlankChar c = false :=
    fun c hc => isBlankChar_of_isDigit (isDigit_of_mem_paddedChars hc)
  have hfraction (micros : Nat) : ∀ c ∈ fractionChars micros, Text.isBlankChar c = false := by
    unfold fractionChars
    split
    · exact fun c hc => by cases hc
    · exact List.forall_mem_cons.mpr ⟨rfl, hnumber⟩
  have hoffset (offset : Option Int) :
      ∀ c ∈ offsetChars offset, Text.isBlankChar c = false := by
    cases offset with
    | none => exact fun c hc => by cases hc
    | some o =>
      have hsign : Text.isBlankChar (if o < 0 then '-' else '+') = false := by
        split <;> rfl
      have hseconds : ∀ c ∈ (if o.natAbs % 60 = 0 then []
          else ':' :: paddedChars 2 (o.natAbs % 60)), Text.isBlankChar c = false := by
        split
        · exact fun c hc => by cases hc
        · exact List.forall_mem_cons.mpr ⟨rfl, hnumber⟩
      rw [offsetChars_some]
      simp only [List.forall_mem_append, List.forall_mem_cons]
      exact ⟨hsign, hnumber, rfl, hnumber, hseconds⟩
  rw [toList_text]
  simp only [List.forall_mem_append, List.forall_mem_cons]
  exact ⟨hnumber, rfl, hnumber, rfl, hnumber, rfl, hnumber, rfl, hnumber, rfl, hnumber,
    hfraction _, hoffset _⟩

/-- The time of day of a local time is in its ranges, and what is left of the local time are whole
days. -/
theorem timeOfDay_spec (clock : Int) :
    (timeOfDay clock).hours < 24 ∧ (timeOfDay clock).minutes < 60 ∧
      (timeOfDay clock).seconds < 60 ∧ (timeOfDay clock).micros < 1000000 ∧
      clock.fdiv day * day + (timeOfDay clock).toMicros = clock := by
  have hday : day = 86400000000 := rfl
  have hsecond : second = 1000000 := rfl
  have hfdiv : clock.fdiv day = clock / 86400000000 := Int.fdiv_eq_ediv_of_nonneg _ (by decide)
  have hfmod : clock.fmod day = clock % 86400000000 := Int.fmod_eq_emod_of_nonneg _ (by decide)
  have hmicros : clock.fmod second = clock % 1000000 := Int.fmod_eq_emod_of_nonneg _ (by decide)
  unfold timeOfDay TimeOfDay.toMicros
  dsimp only
  rw [hfdiv, hfmod, hmicros, hday, hsecond]
  omega

/-- Reading the written form comes to reading the offset. -/
theorem read_text_eq {t : Timestamp} (h : t.InCalendar) :
    read t.text = match offset? (offsetChars t.offset) with
      | none => .error (.unknownFormat t.text)
      | some offset => .ok ⟨t.clock, offset⟩ := by
  obtain ⟨hh, hm, hs, hf, hsum⟩ := timeOfDay_spec t.clock
  obtain ⟨hchecked, hdays⟩ : Date.checked (Date.ofDays (t.clock.fdiv day)).year
      (Date.ofDays (t.clock.fdiv day)).month (Date.ofDays (t.clock.fdiv day)).day =
        .ok (Date.ofDays (t.clock.fdiv day)) ∧
      (Date.ofDays (t.clock.fdiv day)).toDays = t.clock.fdiv day := by
    have hfirst := h.first
    have hlast := h.last
    have hday : day = 86400000000 := rfl
    have hfdiv : t.clock.fdiv day = t.clock / 86400000000 :=
      Int.fdiv_eq_ediv_of_nonneg _ (by decide)
    unfold firstMoment at hfirst
    unfold endMoment at hlast
    rw [hday] at hfirst hlast
    exact Date.ofDays_spec (by omega) (by omega)
  have hdate := toList_text t
  generalize Date.ofDays (t.clock.fdiv day) = date at hchecked hdays hdate
  obtain ⟨hy, hmonth, hd⟩ := Date.bounds_of_checked hchecked
  have htime := timeOfDay?_written (t := timeOfDay t.clock) (by omega) (by omega) (by omega) hf
    (offset_isEnding t.offset)
  have hfault : (timeOfDay t.clock).fault? = none := by
    unfold TimeOfDay.fault?
    rw [if_neg (by omega), if_neg (by omega), if_neg (by omega)]
  have hne : t.text.toList.isEmpty = false := by
    obtain ⟨c, cs, hcs⟩ := paddedChars_eq_cons (by decide : 0 < 4) (n := date.year) (by omega)
    rw [hdate, hcs]
    rfl
  unfold read
  rw [Text.trim_of_all (text_plain t)]
  simp only [hne, Bool.false_eq_true, if_false]
  rw [hdate, dateParts?_written (by omega) (by omega) (by omega)]
  simp only [timeAndOffset?]
  rw [htime]
  simp only [Option.bind_eq_bind, Option.bind_some]
  cases offset? (offsetChars t.offset) with
  | none => rfl
  | some offset =>
    simp [hchecked, hfault, hdays, hsum]

/-- What is written with an offset in whole minutes is read as it was. -/
theorem read_text {t : Timestamp} (h : t.InCalendar) (hw : IsWhole t.offset) :
    read t.text = .ok t := by
  rw [read_text_eq h, offset?_written h.short hw]

/-- What is written with an offset in seconds cannot be read. -/
theorem read_text_seconds {t : Timestamp} (h : t.InCalendar) (hw : ¬ IsWhole t.offset) :
    ∃ fault, read t.text = .error fault := by
  have hr := read_text_eq h
  cases ho : t.offset with
  | none =>
    rw [ho] at hw
    exact (hw fun o h => by cases h).elim
  | some o =>
    have hshort := h.short
    rw [ho] at hr hw hshort
    rw [hr, offset?_seconds hshort hw]
    exact ⟨_, rfl⟩

end Timestamp

end Time

end CloudCredentials
