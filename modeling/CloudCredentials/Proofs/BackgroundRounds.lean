import CloudCredentials.Proofs.ErrorContract

/-!
# Rounds of a background task

A background task waits and asks, round after round, until it is told to stop. Each round is one
asking after one wait; a failure of a provider adds one warning, and the next round follows. The
task ends before it is told to exactly when a round ends in another failure.
-/

namespace CloudCredentials

def World.warnings (w : World) : List Record := w.log.filter (·.level = .warning)

/-! ### Any task -/

namespace Background

variable {σ : Type}

/-- What is asked and its world when one more wait is over. -/
def waited (pause : Int) (s : σ × World) : σ × World := (s.1, s.2.advance pause)

/-- The round that follows a wait. -/
def round (ask : σ → World → Except Failure Credentials × σ × World) (pause : Int) (s : σ × World) :
    Except Failure Unit × σ × World :=
  tick ask (waited pause s).1 (waited pause s).2

/-- What is asked and its world after some rounds, whatever each of them came to. -/
def after (ask : σ → World → Except Failure Credentials × σ × World) (pause : Int) :
    Nat → σ × World → σ × World
  | 0, s => s
  | rounds + 1, s => after ask pause rounds (round ask pause s).2

def warning (failure : Failure) : Record :=
  ⟨.warning, .providers, "Background refresh of STS credentials failed: " ++ failure.message⟩

/-- What a round warns of: failures of a provider. -/
def warned : Except Failure Credentials → List Record
  | .ok _ => []
  | .error failure => if failure.isCredentials then [warning failure] else []

variable {ask : σ → World → Except Failure Credentials × σ × World} {pause : Int}

theorem after_succ (rounds : Nat) (s : σ × World) :
    after ask pause (rounds + 1) s = (round ask pause (after ask pause rounds s)).2 := by
  induction rounds generalizing s with
  | zero => rfl
  | succ rounds ih => exact ih (round ask pause s).2

theorem tick_cases (ask : σ → World → Except Failure Credentials × σ × World) (p : σ) (w : World) :
    ((tick ask p w).1 = .ok () ∧
        ∀ failure, (ask p w).1 = .error failure → failure.isCredentials = true) ∨
      ∃ failure, (tick ask p w).1 = .error failure ∧ (ask p w).1 = .error failure ∧
        failure.isCredentials = false := by
  unfold tick
  rcases ask p w with ⟨failure | credentials, p', v⟩
  · cases hf : failure.isCredentials with
    | true =>
      simp [hf]
    | false =>
      simp [hf]
  · simp

/-- A round leaves what its asking has left, but for the warning. -/
theorem tick_leaves (ask : σ → World → Except Failure Credentials × σ × World) (p : σ) (w : World) :
    (tick ask p w).2.1 = (ask p w).2.1 ∧
    (ask p w).2.2.Logged (tick ask p w).2.2 ∧
    (tick ask p w).2.2.warnings = (ask p w).2.2.warnings ++ warned (ask p w).1 := by
  unfold tick
  rcases ask p w with ⟨failure | credentials, p', v⟩
  · cases hf : failure.isCredentials with
    | true =>
      simp only [hf, if_true]
      refine ⟨trivial, (World.Logged.refl v).record .., ?_⟩
      simp [World.warnings, warned, warning, hf]
    | false =>
      simp only [hf]
      refine ⟨rfl, .refl v, ?_⟩
      simp [warned, hf]
  · exact ⟨rfl, .refl v, (List.append_nil _).symm⟩

theorem run_succ_of_ok {rounds : Nat} {s : σ × World} (h : (round ask pause s).1 = .ok ()) :
    run ask pause (rounds + 1) s.1 s.2 =
      ((run ask pause rounds (round ask pause s).2.1 (round ask pause s).2.2).1.map (· + 1),
        (run ask pause rounds (round ask pause s).2.1 (round ask pause s).2.2).2) := by
  have hr : tick ask s.1 (s.2.advance pause) = round ask pause s := rfl
  rw [run, hr]
  rcases hs : round ask pause s with ⟨answer, p, v⟩
  rw [hs] at h
  cases h
  rfl

theorem run_succ_of_error {rounds : Nat} {s : σ × World} {failure : Failure}
    (h : (round ask pause s).1 = .error failure) :
    run ask pause (rounds + 1) s.1 s.2 = (.error failure, (round ask pause s).2) := by
  have hr : tick ask s.1 (s.2.advance pause) = round ask pause s := rfl
  rw [run, hr]
  rcases hs : round ask pause s with ⟨answer, p, v⟩
  rw [hs] at h
  cases h
  rfl

/-- As long as each round goes well the next one follows. -/
theorem run_of_well {rounds : Nat} {s : σ × World}
    (h : ∀ k < rounds, (round ask pause (after ask pause k s)).1 = .ok ()) :
    run ask pause rounds s.1 s.2 = (.ok (rounds + 1), waited pause (after ask pause rounds s)) := by
  induction rounds generalizing s with
  | zero => rfl
  | succ rounds ih =>
    have hfirst : (round ask pause s).1 = .ok () := h 0 (Nat.succ_pos rounds)
    have hrest := ih (s := (round ask pause s).2) fun k hk => h (k + 1) (Nat.succ_lt_succ hk)
    rw [run_succ_of_ok hfirst, hrest]
    rfl

/-- The first round that does not go well is the last one. -/
theorem run_of_ended {rounds k : Nat} {s : σ × World} {failure : Failure} (hk : k < rounds)
    (hwell : ∀ j < k, (round ask pause (after ask pause j s)).1 = .ok ())
    (hend : (round ask pause (after ask pause k s)).1 = .error failure) :
    run ask pause rounds s.1 s.2 = (.error failure, after ask pause (k + 1) s) := by
  induction k generalizing rounds s with
  | zero =>
    cases rounds with
    | zero => cases hk
    | succ rounds => exact run_succ_of_error hend
  | succ k ih =>
    cases rounds with
    | zero => cases hk
    | succ rounds =>
      have hfirst : (round ask pause s).1 = .ok () := hwell 0 (Nat.succ_pos k)
      have hrest := ih (s := (round ask pause s).2) (Nat.lt_of_succ_lt_succ hk)
        (fun j hj => hwell (j + 1) (Nat.succ_lt_succ hj)) hend
      rw [run_succ_of_ok hfirst, hrest]
      rfl

end Background

/-! ### The task of a source -/

namespace AssumedRole

theorem use_log (r : AssumedRole) (client : World → Except Failure Client) (w : World) :
    (r.use client w).2.2.log = w.log := by
  have hrequest (token : String) (c : Client) (w : World) :
      (r.request token c w).2.log = w.log := by
    simp only [request]
    cases (w.roles.next (.ok {})).1 <;> rfl
  have hask (w : World) : (r.ask client w).2.log = w.log := by
    unfold ask
    split
    · rfl
    · split
      · rfl
      · exact hrequest _ _ w
  have hfetch (s : Keeping) : (r.fetch client s).2.2.log = s.2.log := by
    have ha := hask s.2
    unfold fetch
    split
    · rfl
    · rfl
    · split
      · rename_i hx
        rw [hx] at ha
        exact ha
      · rename_i hx
        rw [hx] at ha
        exact ha
  exact Lease.use_respects (R := fun s s' : Keeping => s'.2.log = s.2.log) (fun _ => rfl) method
    Keeping.clock hfetch r.lease (r.stored, w)

end AssumedRole

namespace Source

/-- A round of the task of a source asks it once, after one wait. The source is left as the asking
leaves it, and so is the world but for one warning when the asking fails. -/
structure Round (pause : Int) (s s' : Source × World) : Prop where
  source : s'.1 = (s.1.ask (s.2.advance pause)).2.1
  world : (s.1.ask (s.2.advance pause)).2.2.Logged s'.2
  clock : s'.2.clock = s.2.clock + pause
  warnings : s'.2.warnings = s.2.warnings ++ Background.warned (s.1.ask (s.2.advance pause)).1

variable (state : Backed WebIdentity AssumedRole) (refresher : Refresher) (pause : Int) (w : World)

/-- Asking itself warns of nothing. -/
theorem ask_warnings : (ask (.webIdentity state refresher) w).2.2.warnings = w.warnings := by
  refine Backed.ask_respects (R := fun w v : World => v.warnings = w.warnings)
    (fun h h' => h'.trans h) ?_ (fun _ _ => rfl) ?_
  · intro w
    simp [World.warnings, Backed.looking]
  · intro r w
    exact congrArg (List.filter _) (r.use_log _ w)

theorem round_round : Round pause (.webIdentity state refresher, w)
    (Background.round ask pause (.webIdentity state refresher, w)).2 := by
  obtain ⟨hs, hl, hw⟩ :=
    Background.tick_leaves ask (.webIdentity state refresher) (w.advance pause)
  refine ⟨hs, hl, ?_, ?_⟩
  · have hlater := (ask_later (.webIdentity state refresher) (w.advance pause)).trans hl.later
    exact hlater.clock
  · exact hw.trans (congrArg (· ++ _) (ask_warnings state refresher (w.advance pause)))

/-- A round goes well while the source keeps its promise, and ends with its failure else. -/
theorem round_cases :
    ((Background.round ask pause (.webIdentity state refresher, w)).1 = .ok () ∧
        (∀ failure, (ask (.webIdentity state refresher) (w.advance pause)).1 = .error failure →
          failure.isCredentials = true) ∧
        ¬ Breaks (.webIdentity state refresher) (w.advance pause)) ∨
      ∃ failure, (Background.round ask pause (.webIdentity state refresher, w)).1 = .error failure ∧
        (ask (.webIdentity state refresher) (w.advance pause)).1 = .error failure ∧
        failure.isCredentials = false ∧
        Breaks (.webIdentity state refresher) (w.advance pause) := by
  have hkeeps := ask_keeps_iff (s := .webIdentity state refresher) (w := w.advance pause) trivial
  rcases Background.tick_cases ask (.webIdentity state refresher) (w.advance pause) with
    ⟨hr, hf⟩ | ⟨failure, hr, ha, hf⟩
  · refine .inl ⟨hr, hf, hkeeps.mp ?_⟩
    rcases ha : ask (.webIdentity state refresher) (w.advance pause) with
      ⟨failure | credentials, s', v⟩
    · exact hf failure (by rw [ha])
    · exact ask_isComplete (s := .webIdentity state refresher) (w := w.advance pause) trivial ha
  · refine .inr ⟨failure, hr, ha, hf, ?_⟩
    have hnot : ¬ KeepsContract (ask (.webIdentity state refresher) (w.advance pause)).1 := by
      rw [ha]
      exact Bool.eq_false_iff.mp hf
    exact Classical.not_not.mp fun hb => hnot (hkeeps.mpr hb)

theorem after_webIdentity (rounds : Nat) : ∃ state', (Background.after ask pause rounds
    (.webIdentity state refresher, w)).1 = .webIdentity state' refresher := by
  induction rounds with
  | zero => exact ⟨state, rfl⟩
  | succ rounds ih =>
    obtain ⟨state', hs⟩ := ih
    rw [Background.after_succ]
    generalize Background.after ask pause rounds (.webIdentity state refresher, w) = s at hs
    obtain ⟨s, v⟩ := s
    subst hs
    exact ⟨_, (round_round state' refresher pause v).source⟩

/-- The token service cannot be reached once, and gives keys from then on. -/
def outOnce : World where
  roles := [.error fun _ => .endpoint "https://sts.us-east-1.amazonaws.com/", .ok {}]
  files := [(["token"], .file [65])]

end Source

namespace Provider

/-- The service gives keys that have expired once, and good keys from then on. -/
def expiredOnce : World where
  roles := [.ok ⟨some { expiry := some (.expiry (.after (-1))) }⟩, .ok {}]
  files := [(["token"], .file [65])]

end Provider

end CloudCredentials
