import CloudCredentials.Failure

/-!
# Kinds of failures

Results that fail, if they do, with failures of one kind only. The kind is kept by everything that
results are put together with, so that it can be read off the parts of a function. Where a result
comes about in stages, its failures are those of the stages.
-/

namespace CloudCredentials

/-- A result that is a failure only if the failure is of a kind. -/
def FailsOnly {α : Type} (kind : Failure → Bool) (r : Except Failure α) : Prop :=
  ∀ failure, r = .error failure → kind failure = true

variable {α β : Type} {kind : Failure → Bool} {r : Except Failure α}

@[simp] theorem failsOnly_ok (a : α) : FailsOnly kind (.ok a : Except Failure α) := by
  intro f h
  cases h

@[simp] theorem failsOnly_pure (a : α) : FailsOnly kind (pure a : Except Failure α) :=
  failsOnly_ok a

@[simp] theorem failsOnly_error (f : Failure) :
    FailsOnly kind (.error f : Except Failure α) ↔ kind f = true := by
  constructor
  · intro h
    exact h f rfl
  · intro h g hg
    cases hg
    exact h

@[simp] theorem failsOnly_map (g : α → β) : FailsOnly kind (r.map g) ↔ FailsOnly kind r := by
  cases r with
  | error f => exact (failsOnly_error f).trans (failsOnly_error f).symm
  | ok a => exact iff_of_true (failsOnly_ok _) (failsOnly_ok a)

/-- A failure that a part ends in is of the part's kind. -/
theorem FailsOnly.passed {f : Failure} (hr : FailsOnly kind r) (he : r = .error f) :
    FailsOnly kind (.error f : Except Failure β) :=
  (failsOnly_error f).mpr (hr f he)

theorem FailsOnly.bind {k : α → Except Failure β} (hr : FailsOnly kind r)
    (hk : ∀ a, FailsOnly kind (k a)) : FailsOnly kind (r >>= k) := by
  cases r with
  | error f => exact (failsOnly_error f).mpr (hr f rfl)
  | ok a => exact hk a

theorem FailsOnly.ite {c : Prop} [Decidable c] {r' : Except Failure α} (h : FailsOnly kind r)
    (h' : FailsOnly kind r') : FailsOnly kind (if c then r else r') := by
  split
  · exact h
  · exact h'

/-- A result fails in no other way exactly when there is no failure of another kind. -/
theorem failsOnly_iff_not_exists :
    FailsOnly kind r ↔ ¬ ∃ failure, r = .error failure ∧ kind failure = false := by
  constructor
  · rintro h ⟨failure, hr, hk⟩
    rw [h failure hr] at hk
    cases hk
  · intro h failure hr
    cases hk : kind failure with
    | true => rfl
    | false => exact absurd ⟨failure, hr, hk⟩ h

theorem FailsOnly.mono {kind' : Failure → Bool} (h : FailsOnly kind r)
    (hk : ∀ f, kind f = true → kind' f = true) : FailsOnly kind' r :=
  fun f hf => hk f (h f hf)

/-! ### Stages -/

/-- Something is so after a success. -/
def After {α ρ : Type} (r : Except Failure α × ρ) (P : α → ρ → Prop) : Prop :=
  ∃ a rest, r = (.ok a, rest) ∧ P a rest

section Stages

variable {ρ : Type}

theorem not_after_error {f : Failure} {rest : ρ} {P : α → ρ → Prop} :
    ¬ After (.error f, rest) P := by
  rintro ⟨_, _, h, _⟩
  cases h

theorem after_ok {a : α} {rest : ρ} {P : α → ρ → Prop} : After (.ok a, rest) P ↔ P a rest := by
  constructor
  · rintro ⟨_, _, h, hp⟩
    cases h
    exact hp
  · intro h
    exact ⟨a, rest, rfl, h⟩

/-- A failure of a stage is the result; after a success, what follows decides. -/
theorem failsOnly_stage {r : Except Failure α × ρ} {result : Except Failure β} {B : Prop}
    {P : α → ρ → Prop} (hr : FailsOnly kind r.1 ↔ ¬ B)
    (hf : ∀ f rest, r = (.error f, rest) → result = .error f)
    (hk : ∀ a rest, r = (.ok a, rest) → (FailsOnly kind result ↔ ¬ P a rest)) :
    FailsOnly kind result ↔ ¬ (B ∨ After r P) := by
  rcases r with ⟨failure | a, rest⟩
  · rw [hf failure rest rfl, or_iff_left not_after_error, failsOnly_error]
    exact (failsOnly_error failure).symm.trans hr
  · rw [hk a rest rfl, or_iff_right (hr.mp (failsOnly_ok a)), after_ok]

end Stages

end CloudCredentials
