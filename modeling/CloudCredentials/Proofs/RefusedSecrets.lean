import CloudCredentials.Proofs.SecretTwins

/-!
# Checking settings with a secret

The check of settings takes the secret key's value in one place only. What it comes to depends on
that value by whether it is refused, and if so by what the refusal says of it: settings that differ
in the secret key give the same problems but for the one of the secret key, and if the secret keys
are refused alike, the same settings but for the secret key.
-/

namespace CloudCredentials

/-! ### Problems of a check -/

/-- What a problem says of the refused value, apart from the place where it was found. -/
def Problem.reason (p : Problem) : String :=
  "\n  " ++ p.rule.message ++ " [type=" ++ p.rule.name ++ ", input_value=" ++
    shorten p.value.literal ++ ", input_type=" ++ p.value.kindName ++ "]"

theorem Problem.message_eq (p : Problem) :
    p.message = ".".intercalate p.location ++ p.reason := by
  simp only [Problem.message, Problem.reason, String.append_assoc]

/-- Problems in the same place that say the same of their values. -/
structure Problem.Alike (p q : Problem) : Prop where
  location : p.location = q.location
  reason : p.reason = q.reason

theorem Problem.Alike.message {p q : Problem} (h : p.Alike q) : p.message = q.message := by
  rw [Problem.message_eq, Problem.message_eq, h.location, h.reason]

theorem problemsMessage_alike {ps qs : List Problem} (h : List.Forall₂ Problem.Alike ps qs)
    (title : String) : problemsMessage title ps = problemsMessage title qs := by
  have hmessages : ps.map Problem.message = qs.map Problem.message := by
    induction h with
    | nil => rfl
    | cons hp _ ih => rw [List.map_cons, List.map_cons, hp.message, ih]
  unfold problemsMessage
  rw [hmessages, h.length_eq]

theorem Problem.Alike.within {p q : Problem} (h : p.Alike q) (name : String) :
    (p.within name).Alike (q.within name) :=
  ⟨congrArg (name :: ·) h.location, h.reason⟩

namespace Checked

variable {α β γ δ : Type}

def problems : Checked α → List Problem
  | .ok _ => []
  | .error problems => problems

@[simp] theorem problems_ok (a : α) : problems (.ok a) = [] := rfl

@[simp] theorem problems_error (ps : List Problem) : problems (.error ps : Checked α) = ps := rfl

@[simp] theorem problems_map (f : α → β) (r : Checked α) : problems (r.map f) = problems r := by
  cases r <;> rfl

@[simp] theorem problems_apply (f : Checked (α → β)) (r : Checked α) :
    problems (apply f r) = problems f ++ problems r := by
  cases f with
  | ok f => cases r <;> rfl
  | error ps =>
    cases r with
    | ok a => exact (List.append_nil ps).symm
    | error qs => rfl

theorem problems_mapError (f : List Problem → List Problem) (r : Checked α) (hf : f [] = []) :
    problems (r.mapError f) = f (problems r) := by
  cases r with
  | ok a => exact hf.symm
  | error ps => rfl

theorem problems_field (m : Mapping) (name : String) (default : α) (check : Value → Checked α) :
    problems (field m name default check) =
      ((m.get? name).elim [] fun v => problems (check v)).map (Problem.within name) := by
  unfold field
  cases m.get? name with
  | none => rfl
  | some v => exact problems_mapError _ (check v) rfl

/-- Both come to related values, or are refused for problems that say the same. -/
inductive Alike (R : α → β → Prop) : Checked α → Checked β → Prop
  | ok {a : α} {b : β} (h : R a b) : Alike R (.ok a) (.ok b)
  | error {ps qs : List Problem} (h : List.Forall₂ Problem.Alike ps qs) :
    Alike R (.error ps) (.error qs)

namespace Alike

variable {R : α → β → Prop} {S : γ → δ → Prop} {r : Checked α} {r' : Checked β}

theorem refl {R : α → α → Prop} (hR : ∀ a, R a a) (r : Checked α) : Alike R r r := by
  cases r with
  | ok a => exact .ok (hR a)
  | error ps => exact .error (List.forall₂_same.mpr fun p _ => ⟨rfl, rfl⟩)

theorem imp {T : α → β → Prop} (h : Alike R r r') (hRT : ∀ a b, R a b → T a b) :
    Alike T r r' := by
  cases h with
  | ok h => exact .ok (hRT _ _ h)
  | error h => exact .error h

theorem map {f : α → γ} {g : β → δ} (h : Alike R r r') (hfg : ∀ {a b}, R a b → S (f a) (g b)) :
    Alike S (r.map f) (r'.map g) := by
  cases h with
  | ok h => exact .ok (hfg h)
  | error h => exact .error h

theorem apply {f : Checked (α → γ)} {g : Checked (β → δ)}
    (hf : Alike (fun f g => ∀ a b, R a b → S (f a) (g b)) f g) (h : Alike R r r') :
    Alike S (Checked.apply f r) (Checked.apply g r') := by
  cases hf with
  | ok hf =>
    cases h with
    | ok h => exact .ok (hf _ _ h)
    | error h => exact .error h
  | error hf =>
    cases h with
    | ok h => exact .error hf
    | error h => exact .error (List.rel_append hf h)

/-- The same checked value is put in on both sides. -/
theorem applySame {R : γ → δ → Prop} {f : Checked (α → γ)} {g : Checked (α → δ)}
    (hf : Alike (fun f g => ∀ a, R (f a) (g a)) f g) (r : Checked α) :
    Alike R (Checked.apply f r) (Checked.apply g r) := by
  refine apply (hf.imp ?_) (.refl (fun _ => rfl) r)
  rintro f g hfg a _ rfl
  exact hfg a

theorem within (h : Alike R r r') (name : String) :
    Alike R (r.mapError (·.map (Problem.within name)))
      (r'.mapError (·.map (Problem.within name))) := by
  cases h with
  | ok h => exact .ok h
  | error h => exact .error (List.rel_map (fun _ _ hp => hp.within name) h)

end Alike

end Checked

/-! ### The secret key in effect -/

/-- The value under the secret key of the credentials. -/
def Mapping.secret? (m : Mapping) : Option Value :=
  match m.get? Section.credentials.name with
  | some (.map parts) => Mapping.get? parts secretPart
  | _ => none

/-- What is said of a value when it is refused as a secret key; nothing when it is accepted. -/
def Value.remarks (v : Value) : List String := (checkOptionalText v).problems.map Problem.reason

/-- What is said of a secret key that may be absent. -/
def Value.remarksOn (v : Option Value) : List String := v.elim [] Value.remarks

theorem checkOptionalText_cases (v : Value) : (∃ s, checkOptionalText v = .ok s) ∨
    ∃ rule, checkOptionalText v = .error [⟨[], rule, v⟩] := by
  cases v with
  | null => exact .inl ⟨none, rfl⟩
  | text s => exact .inl ⟨some s, rfl⟩
  | bytes content =>
    unfold checkOptionalText checkText
    dsimp only
    cases Text.decodeUtf8? content with
    | some s => exact .inl ⟨some s, rfl⟩
    | none => exact .inr ⟨.unicodeText, rfl⟩
  | brokenText codes => exact .inr ⟨.unicodeText, rfl⟩
  | _ => exact .inr ⟨.text, rfl⟩

/-- Texts and what may be said of them when they are no secrets: whether they are blank. -/
def SameVisibility (s s' : Option String) : Prop := Text.hasText s = Text.hasText s'

theorem SameVisibility.refl (s : Option String) : SameVisibility s s := rfl

theorem hasText_of_isFilled {v : Value} {s : Option String} (h : v.isFilled = true)
    (hs : checkOptionalText v = .ok s) : Text.hasText s = true := by
  have filled {t : String} (ht : checkText v = .ok t) (hf : v.isFilled = !Text.isBlank t) :
      (!Text.isBlank t) = true := hf.symm.trans h
  cases v with
  | text t =>
    cases hs
    exact filled rfl rfl
  | bytes content =>
    unfold Value.isFilled checkText at h
    unfold checkOptionalText checkText at hs
    dsimp only at h hs
    cases hd : Text.decodeUtf8? content with
    | none =>
      rw [hd] at hs
      cases hs
    | some t =>
      rw [hd] at h hs
      cases hs
      exact h
  | null => cases h
  | _ => cases hs

/-! ### Checking twins -/

/-- Credentials that agree but for the secret key, which is visible in both or in none. -/
structure CredentialsProperties.Twin (p p' : CredentialsProperties) : Prop where
  accessKey : p.accessKey = p'.accessKey
  secretKey : SameVisibility p.secretKey p'.secretKey
  instanceProfile : p.instanceProfile = p'.instanceProfile
  profile : p.profile = p'.profile
  sts : p.sts = p'.sts

structure Settings.Twin (s s' : Settings) : Prop where
  credentials : s.credentials.Twin s'.credentials
  region : s.region = s'.region

section Parts

variable {m m' : Mapping} (h : Mapping.TwinParts m m')

include h

theorem field_eq_of_twin {α : Type} (part : String) (default : α) (check : Value → Checked α)
    (hp : Text.lower part ≠ secretPart) :
    Checked.field m part default check = Checked.field m' part default check := by
  unfold Checked.field
  rw [h.get?_eq hp]

theorem checkSecret_alike
    (hr : Value.remarksOn (m.get? secretPart) = Value.remarksOn (m'.get? secretPart)) :
    Checked.Alike SameVisibility (Checked.field m secretPart none checkOptionalText)
      (Checked.field m' secretPart none checkOptionalText) := by
  have hg := h.get? secretPart
  unfold Checked.field
  generalize m.get? secretPart = found at hg hr
  generalize m'.get? secretPart = found' at hg hr
  cases hg with
  | none => exact .ok rfl
  | @some v v' hv =>
    refine Checked.Alike.within ?_ secretPart
    rcases hv with rfl | ⟨-, rfl | ⟨hv, hv'⟩⟩
    · exact .refl .refl _
    · exact .refl .refl _
    · have hr : v.remarks = v'.remarks := hr
      unfold Value.remarks at hr
      rcases checkOptionalText_cases v with ⟨s, hs⟩ | ⟨rule, hs⟩ <;>
        rcases checkOptionalText_cases v' with ⟨s', hs'⟩ | ⟨rule', hs'⟩
      · rw [hs, hs']
        exact .ok ((hasText_of_isFilled hv hs).trans (hasText_of_isFilled hv' hs').symm)
      · rw [hs, hs'] at hr
        cases hr
      · rw [hs, hs'] at hr
        cases hr
      · rw [hs, hs'] at hr ⊢
        exact .error (.cons ⟨rfl, (List.cons.inj hr).1⟩ .nil)

theorem checkCredentials_alike
    (hr : Value.remarksOn (m.get? secretPart) = Value.remarksOn (m'.get? secretPart)) :
    Checked.Alike CredentialsProperties.Twin (checkCredentials m) (checkCredentials m') := by
  have hsecret := checkSecret_alike h hr
  unfold checkCredentials
  dsimp only
  rw [field_eq_of_twin h "access_key" none _ (by decide),
    field_eq_of_twin h "instance_profile" false _ (by decide),
    field_eq_of_twin h "profile" none _ (by decide), field_eq_of_twin h "sts" none _ (by decide)]
  refine .applySame (.applySame (.applySame (.apply ?_ hsecret) _) _) _
  refine Checked.Alike.map (.refl (fun _ => rfl) _) ?_
  rintro access _ rfl s s' hs metadata profile sts
  exact ⟨rfl, hs, rfl, rfl, rfl⟩

/-- Around the problem of the secret key, if it has one, twins have the same problems. -/
theorem problems_checkCredentials : ∃ before after,
    (checkCredentials m).problems = before ++
      (Checked.field m secretPart none checkOptionalText).problems ++ after ∧
    (checkCredentials m').problems = before ++
      (Checked.field m' secretPart none checkOptionalText).problems ++ after := by
  have hall (n : Mapping) : (checkCredentials n).problems =
      (Checked.field n "access_key" none checkOptionalText).problems ++
        (Checked.field n secretPart none checkOptionalText).problems ++
        ((Checked.field n "instance_profile" false checkBool).problems ++
          ((Checked.field n "profile" none
            (checkOptionalSection profileTitle checkProfile)).problems ++
            (Checked.field n "sts" none (checkOptionalSection stsTitle checkSts)).problems)) := by
    simp only [checkCredentials, Checked.problems_apply, Checked.problems_map, secretPart,
      List.append_assoc]
  refine ⟨_, _, ?_, hall m'⟩
  rw [hall m, field_eq_of_twin h "access_key" none _ (by decide),
    field_eq_of_twin h "instance_profile" false _ (by decide),
    field_eq_of_twin h "profile" none _ (by decide), field_eq_of_twin h "sts" none _ (by decide)]

end Parts

/-- The problems of a secret key that may be absent. -/
def secretProblems (v : Option Value) : List Problem :=
  ((v.elim [] fun v => (checkOptionalText v).problems).map (Problem.within secretPart)).map
    (Problem.within Section.credentials.name)

theorem messages_secretProblems (v : Option Value) : (secretProblems v).map Problem.message =
    (Value.remarksOn v).map ("credentials.secret_key" ++ ·) := by
  cases v with
  | none => rfl
  | some v =>
    rcases checkOptionalText_cases v with ⟨s, hs⟩ | ⟨rule, hs⟩
    · simp only [secretProblems, Value.remarksOn, Value.remarks, Option.elim_some, hs,
        Checked.problems_ok, List.map_nil]
    · simp only [secretProblems, Value.remarksOn, Value.remarks, Option.elim_some, hs,
        Checked.problems_error, List.map_cons, List.map_nil, Problem.message_eq]
      rfl

theorem length_secretProblems_le (v : Option Value) : (secretProblems v).length ≤ 1 := by
  cases v with
  | none => exact Nat.zero_le 1
  | some v =>
    rcases checkOptionalText_cases v with ⟨s, hs⟩ | ⟨rule, hs⟩
    · simp only [secretProblems, Option.elim_some, hs, Checked.problems_ok, List.map_nil]
      exact Nat.zero_le 1
    · simp only [secretProblems, Option.elim_some, hs, Checked.problems_error, List.map_cons,
        List.map_nil]
      exact Nat.le_refl 1

section Sections

variable {m m' : Mapping} (h : Mapping.TwinSections m m')

include h

/-- Twins both have parts of the credentials, or they have the same in their place and no secret
key. -/
theorem credentials_cases :
    (∃ parts parts', m.get? Section.credentials.name = some (.map parts) ∧
      m'.get? Section.credentials.name = some (.map parts') ∧ Mapping.TwinParts parts parts') ∨
    m.get? Section.credentials.name = m'.get? Section.credentials.name ∧
      m.secret? = none ∧ m'.secret? = none := by
  have hg := h.get? Section.credentials.name
  unfold Mapping.secret?
  generalize m.get? Section.credentials.name = found at hg
  generalize m'.get? Section.credentials.name = found' at hg
  cases hg with
  | none => exact .inr ⟨rfl, rfl, rfl⟩
  | @some v v' hv =>
    rcases Value.twin_cons.mp hv.twin with rfl | ⟨parts, parts', rfl, rfl, hp⟩
    · cases v with
      | map parts => exact .inl ⟨parts, parts, rfl, rfl, .refl _ _ parts⟩
      | _ => exact .inr ⟨rfl, rfl, rfl⟩
    · exact .inl ⟨parts, parts', rfl, rfl, hp⟩

theorem region_eq_of_twin :
    Checked.field m "region" {} (checkGivenSection regionTitle checkRegion) =
      Checked.field m' "region" {} (checkGivenSection regionTitle checkRegion) := by
  unfold Checked.field
  rw [h.get?_eq (by decide)]

/-- Settings whose secret keys are refused alike, or both accepted, are checked alike. -/
theorem checkSettings_alike (hr : Value.remarksOn m.secret? = Value.remarksOn m'.secret?) :
    Checked.Alike Settings.Twin (checkSettings m) (checkSettings m') := by
  have hcredentials : Checked.Alike CredentialsProperties.Twin
      (Checked.field m "credentials" {} (checkGivenSection credentialsTitle checkCredentials))
      (Checked.field m' "credentials" {}
        (checkGivenSection credentialsTitle checkCredentials)) := by
    unfold Checked.field
    rcases credentials_cases h with ⟨parts, parts', hm, hm', hp⟩ | ⟨hm, -⟩
    · unfold Mapping.secret? at hr
      rw [hm, hm'] at hr
      have hm : m.get? "credentials" = some (.map parts) := hm
      have hm' : m'.get? "credentials" = some (.map parts') := hm'
      rw [hm, hm']
      exact (checkCredentials_alike hp hr).within _
    · have hm : m.get? "credentials" = m'.get? "credentials" := hm
      rw [hm]
      exact .refl (fun _ => ⟨rfl, rfl, rfl, rfl, rfl⟩) _
  unfold checkSettings
  dsimp only
  rw [region_eq_of_twin h]
  refine .applySame (hcredentials.map ?_) _
  intro p p' hp region
  exact ⟨hp, rfl⟩

/-- Around the problem of the secret key, if it has one, twins have the same problems. -/
theorem problems_checkSettings : ∃ before after,
    (checkSettings m).problems = before ++ secretProblems m.secret? ++ after ∧
      (checkSettings m').problems = before ++ secretProblems m'.secret? ++ after := by
  have hall (n : Mapping) : (checkSettings n).problems =
      (Checked.field n "credentials" {}
        (checkGivenSection credentialsTitle checkCredentials)).problems ++
        (Checked.field n "region" {} (checkGivenSection regionTitle checkRegion)).problems := by
    simp only [checkSettings, Checked.problems_apply, Checked.problems_map]
  have parted {n parts : Mapping} (hn : n.get? Section.credentials.name = some (.map parts)) :
      (Checked.field n "credentials" {}
        (checkGivenSection credentialsTitle checkCredentials)).problems =
        (checkCredentials parts).problems.map (Problem.within Section.credentials.name) := by
    have hn : n.get? "credentials" = some (.map parts) := hn
    rw [Checked.problems_field, hn]
    rfl
  have secret {n parts : Mapping} (hn : n.get? Section.credentials.name = some (.map parts)) :
      secretProblems n.secret? =
        (Checked.field parts secretPart none checkOptionalText).problems.map
          (Problem.within Section.credentials.name) := by
    rw [Mapping.secret?, hn, Checked.problems_field]
    rfl
  rw [hall m, hall m', region_eq_of_twin h]
  rcases credentials_cases h with ⟨parts, parts', hm, hm', hp⟩ | ⟨hm, hs, hs'⟩
  · obtain ⟨before, after, hproblems, hproblems'⟩ := problems_checkCredentials hp
    rw [parted hm, parted hm', secret hm, secret hm', hproblems, hproblems']
    simp only [List.map_append, List.append_assoc]
    exact ⟨_, _, rfl, rfl⟩
  · have hm : m.get? "credentials" = m'.get? "credentials" := hm
    have hnone : secretProblems none = [] := rfl
    have hfield : Checked.field m "credentials" {}
        (checkGivenSection credentialsTitle checkCredentials) = Checked.field m' "credentials" {}
          (checkGivenSection credentialsTitle checkCredentials) := by
      unfold Checked.field
      rw [hm]
    have alone (ps : List Problem) : ps = ps ++ [] ++ [] := by
      rw [List.append_nil, List.append_nil]
    rw [hs, hs', hnone, hfield]
    exact ⟨_, [], alone _, alone _⟩

end Sections

end CloudCredentials
