import CloudCredentials.CommandLine.Run
import CloudCredentials.Proofs.FailureKinds

/-!
# What commands do not expect of settings

A command expects the failures of this library, missing files and bad values; validation expects
those of the SDK too. Settings can fail otherwise in one place only: at the config file, when its
home directory is not known, when it is no YAML text, when its document is no mapping and no list
of pairs, or when a key of it is no name.
-/

namespace CloudCredentials

namespace CommandLine

/-- The failures that a command reports in a message. -/
def Command.expects : Command → Failure → Bool
  | .validate => isExpectedInValidation
  | _ => isExpected

/-- A result that is a failure only if the command expects that. -/
def Foreseen {α : Type} (c : Command) (r : Except Failure α) : Prop :=
  ∀ failure, r = .error failure → c.expects failure = true

section Foreseen

variable {α β ρ : Type} {c : Command}

theorem Command.expects_eq (c : Command) (f : Failure) :
    c.expects f = (isExpected f || c = .validate && f.isSdk) := by
  cases c with
  | validate => rfl
  | _ => exact (Bool.or_false _).symm

theorem Command.expects_of_isValue {f : Failure} (h : f.isValue = true) : c.expects f = true := by
  rw [expects_eq, isExpected, h, Bool.or_true, Bool.true_or]

theorem Command.expects_of_isOwn {f : Failure} (h : f.isOwn = true) : c.expects f = true := by
  rw [expects_eq, isExpected, h, Bool.true_or, Bool.true_or, Bool.true_or]

theorem foreseen_ok (a : α) : Foreseen c (.ok a) := by
  intro f h
  cases h

theorem foreseen_error {f : Failure} : Foreseen c (.error f : Except Failure α) ↔
    c.expects f = true := by
  constructor
  · intro h
    exact h f rfl
  · intro h g hg
    cases hg
    exact h

/-- Whether a failure is foreseen does not depend on what was to come instead of it. -/
theorem foreseen_error_congr {f : Failure} :
    Foreseen c (.error f : Except Failure α) ↔ Foreseen c (.error f : Except Failure β) :=
  foreseen_error.trans foreseen_error.symm

theorem not_foreseen {f : Failure} (h : isExpectedInValidation f = false) :
    ¬ Foreseen c (.error f : Except Failure α) := by
  obtain ⟨hf, hs⟩ := Bool.or_eq_false_iff.mp h
  rw [foreseen_error, Command.expects_eq, hf, hs, Bool.and_false]
  exact Bool.false_ne_true

theorem foreseen_map {r : Except Failure α} {g : α → β} : Foreseen c (r.map g) ↔ Foreseen c r := by
  cases r with
  | error f => exact foreseen_error_congr
  | ok a => exact iff_of_true (foreseen_ok _) (foreseen_ok _)

theorem foreseen_bind {r : Except Failure α} {k : α → Except Failure β} :
    Foreseen c (r >>= k) ↔ Foreseen c r ∧ ∀ a, r = .ok a → Foreseen c (k a) := by
  cases r with
  | error f =>
    refine ⟨fun h => ⟨foreseen_error_congr.mp h, fun _ ha => ?_⟩, fun h => ?_⟩
    · cases ha
    · exact foreseen_error_congr.mp h.1
  | ok a =>
    refine ⟨fun h => ⟨foreseen_ok a, fun _ ha => ?_⟩, fun h => h.2 a rfl⟩
    cases ha
    exact h

theorem foreseen_stage {r : Except Failure α × ρ} {result : Except Failure β} {B : Prop}
    {P : α → ρ → Prop} (hr : Foreseen c r.1 ↔ ¬ B)
    (hf : ∀ f rest, r = (.error f, rest) → result = .error f)
    (hk : ∀ a rest, r = (.ok a, rest) → (Foreseen c result ↔ ¬ P a rest)) :
    Foreseen c result ↔ ¬ (B ∨ After r P) :=
  failsOnly_stage hr hf hk

end Foreseen

end CommandLine

open CommandLine

variable {c : Command}

/-! ### Documents -/

/-- Before any element of a wrong length there is one that has no elements itself, or a pair whose
first part cannot be a key. -/
inductive OddPairs : List Value → Prop
  | single {value : Value} {rest : List Value} (h : value.elements? = none) :
    OddPairs (value :: rest)
  | key {value key second : Value} {rest : List Value} (h : value.elements? = some [key, second])
    (hk : key.isHashable = false) : OddPairs (value :: rest)
  | later {value key second : Value} {rest : List Value}
    (h : value.elements? = some [key, second]) (hr : OddPairs rest) : OddPairs (value :: rest)

/-- The value is neither nothing nor a mapping, and it is no list of pairs. -/
def Value.IsOdd (v : Value) : Prop :=
  v.isFalsy = false ∧ (∀ m, v ≠ .map m) ∧
    ∀ elements, v.elements? = some elements → OddPairs elements

theorem pairEntries_foreseen (number : Nat) (elements : List Value) :
    Foreseen c (pairEntries number elements) ↔ ¬ OddPairs elements := by
  induction elements generalizing number with
  | nil => exact iff_of_true (foreseen_ok _) fun h => nomatch h
  | cons value rest ih =>
    unfold pairEntries
    split
    · rename_i hn
      exact iff_of_false (not_foreseen rfl) fun h => h (.single hn)
    · rename_i key second hs
      split
      · rename_i hk
        refine foreseen_map.trans ((ih (number + 1)).trans (not_congr ⟨.later hs, fun h => ?_⟩))
        cases h with
        | single hn =>
          rw [hs] at hn
          cases hn
        | key hs' hk' =>
          rw [hs] at hs'
          cases hs'
          rw [hk] at hk'
          cases hk'
        | later _ hr => exact hr
      · rename_i hk
        exact iff_of_false (not_foreseen rfl) fun h => h (.key hs (Bool.eq_false_iff.mpr hk))
    · rename_i elements hne hs
      refine iff_of_true (foreseen_error.mpr (Command.expects_of_isValue rfl)) fun h => ?_
      cases h with
      | single hn =>
        rw [hs] at hn
        cases hn
      | key hs' _ | later hs' _ =>
        rw [hs] at hs'
        exact hne _ _ (Option.some.inj hs')

theorem mappingOf_foreseen (v : Value) : Foreseen c (mappingOf v) ↔ ¬ v.IsOdd := by
  unfold mappingOf Value.IsOdd
  split
  · rename_i hf
    exact iff_of_true (foreseen_ok _) fun h => by simp [hf] at h
  · rename_i hf
    split
    · rename_i m
      exact iff_of_true (foreseen_ok m) fun h => h.2.1 m rfl
    · rename_i hm
      have hf : v.isFalsy = false := Bool.eq_false_iff.mpr hf
      have hm : ∀ m, v ≠ .map m := hm
      cases he : v.elements? with
      | some elements =>
        dsimp only
        refine foreseen_map.trans ((pairEntries_foreseen 0 elements).trans (not_congr ?_))
        constructor
        · intro h
          refine ⟨hf, hm, fun _ he => ?_⟩
          cases he
          exact h
        · rintro ⟨_, _, h⟩
          exact h elements rfl
      | none =>
        dsimp only
        refine iff_of_false (not_foreseen rfl) fun h => h ⟨hf, hm, fun _ he => ?_⟩
        cases he

theorem sectionsIn_foreseen (m : Mapping) :
    Foreseen c (sectionsIn m) ↔ ∀ e ∈ m, e.1.isName = true := by
  unfold sectionsIn
  split
  · rename_i h
    exact iff_of_true (foreseen_ok _) (List.all_eq_true.mp h)
  · rename_i h
    exact iff_of_false (not_foreseen rfl) fun hall => h (List.all_eq_true.mpr hall)

/-- The text of a config file is not YAML, and for no bad value only; or its document is odd, or has
a key that is no name. -/
def DocumentBreaks (c : Command) (bytes : List UInt8) : Prop :=
  (∃ failure, Yaml.read bytes = .error failure ∧ c.expects failure = false) ∨
    ∃ v, Yaml.read bytes = .ok v ∧
      (v.IsOdd ∨ ∃ m, mappingOf v = .ok m ∧ ∃ e ∈ m, e.1.isName = false)

theorem configSettings_foreseen (bytes : List UInt8) :
    Foreseen c (configSettings bytes) ↔ ¬ DocumentBreaks c bytes := by
  unfold configSettings DocumentBreaks
  rw [foreseen_bind]
  cases hr : Yaml.read bytes with
  | error failure =>
    rw [foreseen_error]
    simp
  | ok v =>
    simp only [foreseen_bind, mappingOf_foreseen, sectionsIn_foreseen]
    simp [foreseen_ok]

/-! ### Files -/

theorem bytesOf_foreseen (files : Files) (name : String) : Foreseen c (bytesOf files name) := by
  unfold bytesOf
  split
  · rename_i h
    obtain ⟨content, hr⟩ := (Files.isFile_iff_read_ok files name).mp h
    rw [hr]
    exact foreseen_ok content
  · exact foreseen_ok []

theorem fileVariables_foreseen (w : World) : Foreseen c (fileVariables w) := by
  unfold fileVariables
  refine foreseen_bind.mpr ⟨bytesOf_foreseen _ _, fun bytes _ => ?_⟩
  refine foreseen_bind.mpr ⟨?_, fun _ _ => foreseen_ok _⟩
  cases Text.decodeUtf8 bytes with
  | error fault => exact foreseen_error.mpr (Command.expects_of_isValue rfl)
  | ok cs => exact foreseen_ok cs

/-- The config file is in a home directory that is not known, or its document breaks. -/
def ConfigFileBreaks (c : Command) (path : Path) (w : World) : Prop :=
  path.expandHome w.environment.home = none ∨
    ∃ expanded bytes, path.expandHome w.environment.home = some expanded ∧
      bytesOf w.files expanded.text = .ok bytes ∧ DocumentBreaks c bytes

theorem configFileSettings_foreseen (path : Path) (w : World) :
    Foreseen c (configFileSettings path w) ↔ ¬ ConfigFileBreaks c path w := by
  unfold configFileSettings ConfigFileBreaks
  cases path.expandHome w.environment.home with
  | none =>
    exact iff_of_false (not_foreseen rfl) fun h => h (.inl rfl)
  | some expanded =>
    have hb := bytesOf_foreseen (c := c) w.files expanded.text
    refine foreseen_bind.trans ?_
    simp only [hb, configSettings_foreseen]
    simp

theorem settingsOf_foreseen (origin : String) (vars : Variables) :
    Foreseen c (settingsOf origin vars) := by
  have one (s : Section) : Foreseen c (sectionOf origin s vars) := by
    unfold sectionOf
    dsimp only
    split
    · exact foreseen_ok _
    · split
      · exact foreseen_error.mpr (Command.expects_of_isValue rfl)
      · exact foreseen_ok _
      · exact foreseen_ok _
      · exact foreseen_ok _
  unfold settingsOf
  induction Section.all with
  | nil => exact foreseen_ok _
  | cons s rest ih =>
    unfold sectionsOf
    exact foreseen_bind.mpr ⟨one s, fun _ _ => foreseen_bind.mpr ⟨ih, fun _ _ => foreseen_ok _⟩⟩

/-! ### All settings -/

/-- The settings end in a failure that the command does not expect: a config file is named and is
there, the variable file can be read, and the config file breaks. -/
def SettingsBreak (c : Command) (config : Option String) (w : World) : Prop :=
  ∃ name ∈ config, w.files.isFile (Path.ofText name).text = true ∧
    (∃ assigned, fileVariables w = .ok assigned) ∧ ConfigFileBreaks c (Path.ofText name) w

theorem gatherSettings_foreseen (path : Option Path) (w : World) :
    Foreseen c (gatherSettings path w) ↔
      ∀ assigned, fileVariables w = .ok assigned → ∀ p ∈ path, ¬ ConfigFileBreaks c p w := by
  have later (assigned : Variables) (lowest : Mapping) : Foreseen c (do
      let highest ← settingsOf environmentOrigin (Variables.ofEnvironment w.environment)
      let middle ← settingsOf variableFileOrigin assigned
      return mergeSources highest middle lowest) :=
    foreseen_bind.mpr ⟨settingsOf_foreseen _ _, fun _ _ =>
      foreseen_bind.mpr ⟨settingsOf_foreseen _ _, fun _ _ => foreseen_ok _⟩⟩
  unfold gatherSettings
  refine foreseen_bind.trans ((and_iff_right (fileVariables_foreseen w)).trans ?_)
  refine forall₂_congr fun assigned _ => ?_
  cases path with
  | none => exact iff_of_true (later assigned []) fun _ h => nomatch h
  | some p =>
    refine foreseen_bind.trans ((and_iff_left fun lowest _ => later assigned lowest).trans ?_)
    simp [configFileSettings_foreseen]

theorem settingsFrom_foreseen (title : String) (path : Option Path) (w : World) :
    Foreseen c (settingsFrom title path w) ↔
      ∀ assigned, fileVariables w = .ok assigned → ∀ p ∈ path, ¬ ConfigFileBreaks c p w := by
  unfold settingsFrom
  refine foreseen_bind.trans ((and_iff_left fun m _ => ?_).trans (gatherSettings_foreseen path w))
  cases checkSettings m with
  | error problems => exact foreseen_error.mpr (Command.expects_of_isValue rfl)
  | ok settings => exact foreseen_ok settings

theorem loadSettings_foreseen (config : Option String) (w : World) :
    Foreseen c (loadSettings config w).1 ↔ ¬ SettingsBreak c config w := by
  unfold loadSettings SettingsBreak
  cases config with
  | none =>
    refine iff_of_true ((settingsFrom_foreseen _ none w).mpr fun _ _ _ h => nomatch h) ?_
    rintro ⟨_, h, _⟩
    cases h
  | some name =>
    dsimp only
    split
    · rename_i hf
      refine (settingsFrom_foreseen _ _ _).trans ?_
      simp only [Option.mem_def, Option.some.injEq, forall_eq']
      constructor
      · rintro h ⟨_, rfl, _, ⟨assigned, ha⟩, hb⟩
        exact h assigned ha hb
      · intro h assigned ha hb
        exact h ⟨name, rfl, hf, ⟨assigned, ha⟩, hb⟩
    · rename_i hf
      refine iff_of_true (foreseen_error.mpr (by cases c <;> rfl)) ?_
      rintro ⟨_, h, hf', _⟩
      cases h
      exact hf hf'

end CloudCredentials
