import CloudCredentials.Environment

/-!
# Variables for the SDK's own keys

The SDK takes keys, their expiry and the active profile from a few variables of the environment.
Whoever reads the environment for other variables only cannot tell these variables' values; file
names are such a reader as long as they hold no dollar sign, which may refer to any variable.
-/

namespace CloudCredentials

/-! ### Environments -/

namespace Environment

/-- The variables that hold the SDK's own keys, or name the profile that holds them. -/
def ambient : List String :=
  ["AWS_ACCESS_KEY_ID", "AWS_SECRET_ACCESS_KEY", "AWS_SESSION_TOKEN", "AWS_CREDENTIAL_EXPIRATION",
    "AWS_PROFILE"]

/-- The variables from which the names of the profile files are made. -/
def places : List String := ["HOME", credentialsFileName, configFileName]

/-- The two environments differ in ambient variables at most. -/
def AgreesOutside (env env' : Environment) : Prop :=
  ∀ name ∉ ambient, env'.get? name = env.get? name

/-- No dollar sign comes into the names of the profile files. -/
def IsPlain (env : Environment) : Prop :=
  ∀ name ∈ places, ∀ text, env.get? name = some text → '$' ∉ text.toList

variable {env env' : Environment}

theorem AgreesOutside.place (h : env.AgreesOutside env') {name : String} (hn : name ∈ places) :
    env'.get? name = env.get? name := by
  have hout : ∀ name ∈ places, name ∉ ambient := by decide
  exact h name (hout name hn)

theorem AgreesOutside.home (h : env.AgreesOutside env') : env'.home = env.home :=
  h.place (by decide)

theorem AgreesOutside.fileOr (h : env.AgreesOutside env') {name : String} (hn : name ∈ places)
    (file : String) : env'.fileOr name file = env.fileOr name file := by
  simp only [Environment.fileOr, h.home, h.place hn]

theorem AgreesOutside.credentialsFile (h : env.AgreesOutside env') :
    env'.defaultCredentialsFile = env.defaultCredentialsFile :=
  h.fileOr (by decide) _

theorem AgreesOutside.configFile (h : env.AgreesOutside env') :
    env'.defaultConfigFile = env.defaultConfigFile :=
  h.fileOr (by decide) _

end Environment

/-! ### Paths without a dollar sign -/

theorem mem_intercalate {α : Type} {a : α} {sep : List α} {parts : List (List α)}
    (h : a ∈ sep.intercalate parts) : a ∈ sep ∨ ∃ part ∈ parts, a ∈ part := by
  induction parts with
  | nil => cases h
  | cons part rest ih =>
    cases rest with
    | nil => exact .inr ⟨part, List.mem_cons_self, by simpa using h⟩
    | cons next rest =>
      rw [List.intercalate_cons_cons] at h
      rcases List.mem_append.mp h with h | h
      · rcases List.mem_append.mp h with h | h
        · exact .inr ⟨part, List.mem_cons_self, h⟩
        · exact .inl h
      · rcases ih h with h | ⟨p, hp, h⟩
        · exact .inl h
        · exact .inr ⟨p, List.mem_cons_of_mem _ hp, h⟩

theorem mem_intercalate_of_mem {α : Type} {a : α} {sep part : List α} {parts : List (List α)}
    (hp : part ∈ parts) (h : a ∈ part) : a ∈ sep.intercalate parts := by
  induction parts with
  | nil => cases hp
  | cons first rest ih =>
    cases rest with
    | nil =>
      obtain rfl := List.mem_singleton.mp hp
      simpa using h
    | cons next rest =>
      rw [List.intercalate_cons_cons]
      rcases List.mem_cons.mp hp with rfl | hp
      · exact List.mem_append_left _ (List.mem_append_left _ h)
      · exact List.mem_append_right _ (ih hp)

namespace Path

/-- A path that refers to no variable. -/
def IsPlain (p : Path) : Prop := '$' ∉ p.text.toList

theorem isPlain_iff {p : Path} : p.IsPlain ↔ ∀ name ∈ p.names, '$' ∉ name.toList := by
  unfold IsPlain text
  split
  · rename_i h
    have hnames : p.names = [] := by simpa using (Bool.and_eq_true_iff.mp h).2
    rw [hnames]
    exact iff_of_true (by decide) (fun _ hn => by cases hn)
  · have hroot : '$' ∉ p.root.text.toList := by cases p.root <;> decide
    rw [String.toList_append, String.toList_intercalate]
    constructor
    · intro h name hn hd
      exact h (List.mem_append_right _
        (mem_intercalate_of_mem (List.mem_map_of_mem hn) hd))
    · intro h hd
      rcases List.mem_append.mp hd with hd | hd
      · exact hroot hd
      · rcases mem_intercalate hd with hd | ⟨part, hp, hd⟩
        · exact absurd hd (by decide)
        · obtain ⟨name, hn, rfl⟩ := List.mem_map.mp hp
          exact h name hn hd

theorem isPlain_ofText {text : String} (h : '$' ∉ text.toList) : (ofText text).IsPlain := by
  rw [isPlain_iff]
  intro name hn hd
  obtain ⟨piece, hp, rfl⟩ := List.mem_map.mp (List.mem_filter.mp hn).1
  rw [String.toList_ofList] at hd
  have hmem : '$' ∈ ['/'].intercalate (text.toList.splitOn '/') := mem_intercalate_of_mem hp hd
  rw [List.intercalate_splitOn] at hmem
  exact h hmem

theorem IsPlain.below {p : Path} (h : p.IsPlain) {names : List String}
    (hn : ∀ name ∈ names, '$' ∉ name.toList) : (p.below names).IsPlain := by
  rw [isPlain_iff] at h ⊢
  intro name hmem
  rcases List.mem_append.mp hmem with hmem | hmem
  · exact h name hmem
  · exact hn name hmem

theorem not_mem_trimSlashes {text : String} (h : '$' ∉ text.toList) :
    '$' ∉ (trimSlashes text).toList := by
  unfold trimSlashes
  dsimp only
  split
  · decide
  · intro hd
    rw [String.toList_ofList, List.mem_reverse] at hd
    exact h (List.mem_reverse.mp ((List.dropWhile_suffix _).subset hd))

theorem IsPlain.expandHome {p q : Path} {home : Option String} (h : p.IsPlain)
    (hh : ∀ text, home = some text → '$' ∉ text.toList) (hq : p.expandHome home = some q) :
    q.IsPlain := by
  unfold Path.expandHome at hq
  split at hq
  · cases hq
    exact h
  · split at hq
    · rename_i rest text hnames
      dsimp only at hq
      split at hq
      · cases hq
      · cases hq
        rw [isPlain_iff, hnames] at h
        exact (isPlain_ofText (not_mem_trimSlashes (hh text rfl))).below fun name hn =>
          h name (List.mem_cons_of_mem _ hn)
    · cases hq

end Path

namespace Environment

theorem IsPlain.home {env : Environment} (h : env.IsPlain) :
    ∀ text, env.home = some text → '$' ∉ text.toList :=
  h "HOME" (by decide)

theorem IsPlain.fileOr {env : Environment} (h : env.IsPlain) {name file : String}
    (hn : name ∈ places) (hf : '$' ∉ file.toList) {path : Path}
    (hp : env.fileOr name file = some path) : path.IsPlain := by
  unfold Environment.fileOr at hp
  obtain ⟨directory, hd, hp⟩ := Option.bind_eq_some_iff.mp hp
  refine Path.IsPlain.expandHome ?_ h.home hp
  cases ht : env.get? name with
  | some text => exact Path.isPlain_ofText (h name hn text ht)
  | none =>
    have hdirectory : directory.IsPlain :=
      Path.IsPlain.expandHome (Path.isPlain_iff.mpr (by decide)) h.home hd
    refine hdirectory.below fun part hpart => ?_
    rcases List.mem_cons.mp hpart with rfl | hpart
    · decide
    · rw [List.mem_singleton.mp hpart]
      exact hf

end Environment

end CloudCredentials
