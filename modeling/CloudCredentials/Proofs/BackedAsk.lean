import CloudCredentials.Provider.Backed

/-!
# What asking a source that loads once can do

A source either holds something already or looks for it first. A look that fails or finds nothing
leaves the source empty; what was found is then used, and stays held however the use ends.
-/

namespace CloudCredentials.Backed

variable {σ η : Type} {b : Backing σ η} {name shown : String} {p : Backed σ η} {w : World}

/-- The world in which a source looks for what it holds: the look is recorded. -/
def looking (shown : String) (w : World) : World :=
  w.record .debug .providers ("Looking for credentials via " ++ shown)

/-- What a source comes to hold before it is used: what it held, or what it has just found. -/
inductive Holding (b : Backing σ η) (shown : String) (p : Backed σ η) (w : World) :
    η → σ → World → Prop
  | held {held : η} (hh : p.held = some held) : Holding b shown p w held p.parameters w
  | found {held : η} {parameters : σ} {w' : World} (hh : p.held = none)
    (hl : b.load p.parameters (looking shown w) = (.ok (some held), parameters, w')) :
    Holding b shown p w held parameters w'

theorem Holding.unique {held held' : η} {parameters parameters' : σ} {v v' : World}
    (h : Holding b shown p w held parameters v) (h' : Holding b shown p w held' parameters' v') :
    held = held' ∧ v = v' := by
  cases h with
  | held hh =>
    cases h' with
    | held hh' =>
      rw [hh] at hh'
      cases hh'
      exact ⟨rfl, rfl⟩
    | found hh' _ =>
      rw [hh] at hh'
      cases hh'
  | found hh hl =>
    cases h' with
    | held hh' =>
      rw [hh] at hh'
      cases hh'
    | found _ hl' =>
      rw [hl] at hl'
      cases hl'
      exact ⟨rfl, rfl⟩

def answerOf (b : Backing σ η) (name : String) (held : η) :
    Except Failure Keys → Except Failure Credentials
  | .error failure => .error (reportRenewing name failure)
  | .ok keys => credentials name keys (b.expiration held)

theorem credentials_isOk (name : String) (keys : Keys) (expiration : Option Time.Timestamp) :
    (credentials name keys expiration).isOk = true ↔ keys.isComplete = true := by
  unfold credentials
  split
  · rename_i hk
    exact iff_of_true rfl hk
  · rename_i hk
    exact iff_of_false Bool.noConfusion hk

theorem credentials_failure {keys : Keys} {failure : Failure}
    {expiration : Option Time.Timestamp}
    (h : credentials name keys expiration = .error failure) :
    failure = .notFound name .incomplete ∧ keys.isComplete = false := by
  unfold credentials at h
  split at h
  · cases h
  · rename_i hk
    exact ⟨(Except.error.inj h).symm, eq_false_of_ne_true hk⟩

theorem reportLoading_of_no_cause {failure : Failure}
    (h : (reportLoading name failure).cause? = none) :
    reportLoading name failure = failure := by
  unfold reportLoading at h ⊢
  split at h
  · cases h
  · rename_i hf
    exact if_neg hf

theorem reportRenewing_of_no_cause {failure : Failure}
    (h : (reportRenewing name failure).cause? = none) :
    reportRenewing name failure = failure := by
  unfold reportRenewing at h ⊢
  split at h
  · cases h
  · rename_i hf
    exact if_neg hf

theorem ask_of_hold {held held' : η} {p' : Backed σ η} {v w' : World}
    {answer : Except Failure Keys} (hh : p.hold b name shown w = (.ok held, p', v))
    (hu : b.use held v = (answer, held', w')) :
    p.ask b name shown w = (answerOf b name held' answer, { p' with held := some held' }, w') := by
  simp only [ask, hh, hu]
  cases answer <;> rfl

inductive Asked (b : Backing σ η) (name shown : String) (p : Backed σ η) (w : World) :
    Except Failure Credentials × Backed σ η × World → Prop
  | failed {failure : Failure} {parameters : σ} {w' : World} (hh : p.held = none)
    (hl : b.load p.parameters (looking shown w) = (.error failure, parameters, w')) :
    Asked b name shown p w (.error (reportLoading name failure), ⟨parameters, none⟩, w')
  | absent {parameters : σ} {w' : World} (hh : p.held = none)
    (hl : b.load p.parameters (looking shown w) = (.ok none, parameters, w')) :
    Asked b name shown p w (.error (.notFound name .nothing), ⟨parameters, none⟩, w')
  | used {held held' : η} {parameters : σ} {v w' : World} {answer : Except Failure Keys}
    (hh : Holding b shown p w held parameters v) (hu : b.use held v = (answer, held', w')) :
    Asked b name shown p w (answerOf b name held' answer, ⟨parameters, some held'⟩, w')

theorem ask_asked (b : Backing σ η) (name shown : String) (p : Backed σ η) (w : World) :
    Asked b name shown p w (p.ask b name shown w) := by
  -- once something is held, the rest is its use
  have finish {held : η} {p' : Backed σ η} {v : World}
      (hh : Holding b shown p w held p'.parameters v)
      (hp : p.hold b name shown w = (.ok held, p', v)) :
      Asked b name shown p w (p.ask b name shown w) := by
    rcases hu : b.use held v with ⟨answer, held', w'⟩
    rw [ask_of_hold hp hu]
    exact .used hh hu
  cases hh : p.held with
  | some held => exact finish (.held hh) (hold_of_held hh w)
  | none =>
    rcases hl : b.load p.parameters (looking shown w) with ⟨found, parameters, w'⟩
    have hhold := hl
    unfold looking at hhold
    cases found with
    | error failure =>
      simp only [ask, hold, hh, hhold]
      exact .failed hh hl
    | ok found =>
      cases found with
      | none =>
        simp only [ask, hold, hh, hhold]
        exact .absent hh hl
      | some held =>
        have hp : p.hold b name shown w = (.ok held, ⟨parameters, some held⟩, w') := by
          simp only [hold, hh, hhold]
        exact finish (.found hh hl) hp

theorem ask_ok {c : Credentials} {p' : Backed σ η} {w' : World}
    (h : p.ask b name shown w = (.ok c, p', w')) :
    ∃ held held' parameters v keys, Holding b shown p w held parameters v ∧
      b.use held v = (.ok keys, held', w') ∧ p' = ⟨parameters, some held'⟩ ∧
      keys.isComplete = true ∧ c = ⟨keys, b.expiration held', some name⟩ := by
  have ha := ask_asked b name shown p w
  rw [h] at ha
  generalize hr : (Except.ok c, p', w') = r at ha
  cases ha with
  | failed _ _ => cases hr
  | absent _ _ => cases hr
  | @used held held' parameters v _ answer hh hu =>
    obtain ⟨hc, hp, rfl⟩ : Except.ok c = answerOf b name held' answer ∧
        p' = ⟨parameters, some held'⟩ ∧ w' = _ := by simpa using hr
    cases answer with
    | error failure => cases hc
    | ok keys =>
      simp only [answerOf, credentials] at hc
      split at hc
      · rename_i hk
        exact ⟨held, held', parameters, v, keys, hh, hu, hp, hk, Except.ok.inj hc⟩
      · cases hc

/-- Whatever relates a world to one in which a look is recorded, and to those after a look and
after a use, relates it to the one after asking. -/
theorem ask_respects {R : World → World → Prop}
    (trans : ∀ {w v u}, R w v → R v u → R w u) (record : ∀ w, R w (looking shown w))
    (load : ∀ parameters w, R w (b.load parameters w).2.2)
    (use : ∀ held w, R w (b.use held w).2.2) : R w (p.ask b name shown w).2.2 := by
  have looked {found : Except Failure (Option η)} {parameters : σ} {v : World}
      (hl : b.load p.parameters (looking shown w) = (found, parameters, v)) : R w v := by
    have hv := load p.parameters (looking shown w)
    rw [hl] at hv
    exact trans (record w) hv
  have ha := ask_asked b name shown p w
  generalize p.ask b name shown w = r at ha
  cases ha with
  | failed _ hl => exact looked hl
  | absent _ hl => exact looked hl
  | @used held _ _ v _ _ hh hu =>
    have hv := use held v
    rw [hu] at hv
    cases hh with
    | held _ => exact hv
    | found _ hl => exact trans (looked hl) hv

end CloudCredentials.Backed
