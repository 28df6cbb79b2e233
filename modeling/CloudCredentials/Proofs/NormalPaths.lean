import CloudCredentials.Path
import CloudCredentials.Settings.Load
import Mathlib.Data.List.Basic

/-!
# Paths in normal form

A path that was read from a text is in normal form: its names are names, and hold no slash. Such a
path is read back from its own text, so that paths with the same text are the same. The paths of
settings are in normal form, and stay so when the home directory takes the place of a tilde.
-/

namespace CloudCredentials

/-! ### Pieces of a text -/

theorem not_mem_of_mem_splitOn {α : Type} [BEq α] [LawfulBEq α] {a : α} {as piece : List α}
    (h : piece ∈ as.splitOn a) : a ∉ piece := by
  induction as generalizing piece with
  | nil =>
    rw [List.splitOn_nil] at h
    rw [List.mem_singleton.mp h]
    exact List.not_mem_nil
  | cons b rest ih =>
    rw [List.splitOn_cons_eq_if_modifyHead] at h
    split at h
    · rcases List.mem_cons.mp h with rfl | h
      · exact List.not_mem_nil
      · exact ih h
    · rename_i hb
      obtain ⟨first, others, hs⟩ := List.exists_cons_of_ne_nil (List.splitOn_ne_nil a rest)
      rw [hs, List.modifyHead_cons] at h
      rcases List.mem_cons.mp h with rfl | h
      · have hfirst : a ∉ first := ih (by rw [hs]; exact List.mem_cons_self)
        rw [List.mem_cons, not_or]
        exact ⟨fun hab => hb (beq_iff_eq.mpr hab.symm), hfirst⟩
      · exact ih (by rw [hs]; exact List.mem_cons_of_mem _ h)

namespace Path

/-! ### Normal form -/

/-- The names of the path are names, and no slash is in them. -/
def IsNormal (p : Path) : Prop := ∀ name ∈ p.names, isName name = true ∧ '/' ∉ name.toList

theorem isNormal_ofText (text : String) : (ofText text).IsNormal := by
  intro name hn
  refine ⟨isName_of_mem_ofText hn, ?_⟩
  obtain ⟨piece, hp, rfl⟩ := List.mem_map.mp (List.mem_filter.mp hn).1
  rw [String.toList_ofList]
  exact not_mem_of_mem_splitOn hp

theorem IsNormal.expandHome {p q : Path} (h : p.IsNormal) {home : Option String}
    (he : p.expandHome home = some q) : q.IsNormal := by
  unfold Path.expandHome at he
  split at he
  · cases he
    exact h
  · split at he
    · rename_i rest directory hnames
      dsimp only at he
      split at he
      · cases he
      · cases he
        intro name hn
        rcases List.mem_append.mp hn with hn | hn
        · exact isNormal_ofText _ name hn
        · exact h name (hnames ▸ List.mem_cons_of_mem _ hn)
    · cases he

/-! ### Reading a path back -/

theorem exists_cons_of_isName {name : String} (hn : isName name = true) (hs : '/' ∉ name.toList) :
    ∃ c cs, name.toList = c :: cs ∧ c ≠ '/' := by
  have hne : name.toList ≠ [] := by
    intro h
    rw [String.toList_eq_nil_iff.mp h] at hn
    cases hn
  obtain ⟨c, cs, h⟩ := List.exists_cons_of_ne_nil hne
  refine ⟨c, cs, h, ?_⟩
  rintro rfl
  rw [h] at hs
  exact hs List.mem_cons_self

theorem head?_intercalate_ne {names : List String}
    (h : ∀ name ∈ names, isName name = true ∧ '/' ∉ name.toList) :
    ("/".intercalate names).toList.head? ≠ some '/' := by
  cases names with
  | nil => decide
  | cons first rest =>
    obtain ⟨hname, hslash⟩ := h first List.mem_cons_self
    obtain ⟨c, cs, hfirst, hc⟩ := exists_cons_of_isName hname hslash
    have hhead : ("/".intercalate (first :: rest)).toList.head? = some c := by
      cases rest with
      | nil => rw [String.intercalate_singleton, hfirst, List.head?_cons]
      | cons second rest =>
        rw [String.intercalate_cons_cons, String.toList_append, String.toList_append, hfirst]
        rfl
    rw [hhead]
    exact fun hs => hc (Option.some.inj hs)

theorem filter_pieces {names : List String}
    (h : ∀ name ∈ names, isName name = true ∧ '/' ∉ name.toList) (root : PathRoot) :
    (pieces (root.text ++ "/".intercalate names)).filter isName = names := by
  have hall : names.filter isName = names := List.filter_eq_self.mpr fun name hn => (h name hn).1
  have hpieces : (pieces ("/".intercalate names)).filter isName = names := by
    cases names with
    | nil => decide
    | cons first rest =>
      have hs : ∀ cs ∈ (first :: rest).map String.toList, '/' ∉ cs := by
        intro cs hcs
        obtain ⟨name, hn, rfl⟩ := List.mem_map.mp hcs
        exact (h name hn).2
      have hne : (first :: rest).map String.toList ≠ [] := List.cons_ne_nil _ _
      have hslash : "/".toList = ['/'] := rfl
      rw [pieces, String.toList_intercalate, hslash, List.splitOn_intercalate '/' hs hne,
        List.map_map]
      have hid : String.ofList ∘ String.toList = id := funext fun name => String.ofList_toList
      rw [hid, List.map_id]
      exact hall
  -- a slash at the start adds a piece that is no name
  have slash (text : String) : (pieces ("/" ++ text)).filter isName =
      (pieces text).filter isName := by
    have hsplit : ("/" ++ text).toList.splitOn '/' = [] :: text.toList.splitOn '/' := by
      rw [String.toList_append]
      exact List.splitOn_append_cons_self_of_not_mem List.not_mem_nil text.toList
    rw [pieces, hsplit]
    rfl
  cases root with
  | none =>
    rw [PathRoot.text, String.empty_append]
    exact hpieces
  | slash => exact (slash _).trans hpieces
  | twoSlashes =>
    have htwo : PathRoot.twoSlashes.text ++ "/".intercalate names =
        "/" ++ ("/" ++ "/".intercalate names) := by
      rw [← String.append_assoc]
      rfl
    rw [htwo]
    exact (slash _).trans ((slash _).trans hpieces)

theorem rootOf_append {text : String} (h : text.toList.head? ≠ some '/') (root : PathRoot) :
    rootOf (root.text ++ text) = root := by
  unfold rootOf
  rw [String.toList_append]
  cases hcs : text.toList with
  | nil => cases root <;> rfl
  | cons c cs =>
    rw [hcs, List.head?_cons] at h
    have hc : c ≠ '/' := fun hc => h (congrArg some hc)
    cases root with
    | none => simp [PathRoot.text, hc]
    | slash => simp [PathRoot.text, hc]
    | twoSlashes => simp [PathRoot.text, hc]

theorem ofText_text {p : Path} (h : p.IsNormal) : ofText p.text = p := by
  unfold text
  split
  · rename_i hempty
    obtain ⟨hroot, hnames⟩ := Bool.and_eq_true_iff.mp hempty
    obtain ⟨root, names⟩ := p
    cases of_decide_eq_true hroot
    cases List.isEmpty_iff.mp hnames
    decide
  · rw [ofText, rootOf_append (head?_intercalate_ne h), filter_pieces h]

/-- Paths in normal form are told by their texts. -/
theorem IsNormal.eq_of_text {p q : Path} (hp : p.IsNormal) (hq : q.IsNormal)
    (h : p.text = q.text) : p = q := by
  rw [← ofText_text hp, ← ofText_text hq, h]

end Path

/-! ### Paths of settings -/

/-- The paths that the settings give are in normal form. -/
structure CredentialsProperties.IsNormal (p : CredentialsProperties) : Prop where
  profile : ∀ profile ∈ p.profile, ∀ path ∈ profile.path, path.IsNormal
  tokenFile : ∀ sts ∈ p.sts, ∀ path ∈ sts.tokenFile, path.IsNormal

namespace Checked

variable {α β : Type} {r : Checked α} {b : β}

theorem map_eq_ok {f : α → β} (h : r.map f = .ok b) : ∃ a, r = .ok a ∧ f a = b := by
  cases r with
  | ok a => exact ⟨a, rfl, Except.ok.inj h⟩
  | error problems => cases h

theorem apply_eq_ok {f : Checked (α → β)} (h : apply f r = .ok b) :
    ∃ g a, f = .ok g ∧ r = .ok a ∧ g a = b := by
  cases f with
  | ok g =>
    cases r with
    | ok a => exact ⟨g, a, rfl, rfl, Except.ok.inj h⟩
    | error problems => cases h
  | error problems => cases r <;> cases h

theorem field_eq_ok {m : Mapping} {name : String} {default a : α} {check : Value → Checked α}
    (h : field m name default check = .ok a) : a = default ∨ ∃ value, check value = .ok a := by
  unfold field at h
  split at h
  · exact .inl (Except.ok.inj h).symm
  · rename_i value _
    cases hc : check value with
    | ok b =>
      rw [hc] at h
      cases h
      exact .inr ⟨value, hc⟩
    | error problems =>
      rw [hc] at h
      cases h

end Checked

theorem checkOptionalPath_isNormal {v : Value} {path : Option Path}
    (h : checkOptionalPath v = .ok path) : ∀ p ∈ path, p.IsNormal := by
  unfold checkOptionalPath at h
  split at h
  · cases h
    nofun
  · cases h
    intro p hp
    split at hp
    · cases hp
    · cases hp
      exact Path.isNormal_ofText _
  · cases h

theorem field_isNormal {m : Mapping} {name : String} {path : Option Path}
    (h : Checked.field m name none checkOptionalPath = .ok path) : ∀ p ∈ path, p.IsNormal := by
  rcases Checked.field_eq_ok h with rfl | ⟨v, hv⟩
  · nofun
  · exact checkOptionalPath_isNormal hv

theorem checkProfile_isNormal {m : Mapping} {profile : ProfileProperties}
    (h : checkProfile m = .ok profile) : ∀ path ∈ profile.path, path.IsNormal := by
  obtain ⟨make, path, hmake, hpath, rfl⟩ := Checked.apply_eq_ok h
  obtain ⟨name, -, rfl⟩ := Checked.map_eq_ok hmake
  exact field_isNormal hpath

theorem checkSts_isNormal {m : Mapping} {sts : StsProperties} (h : checkSts m = .ok sts) :
    ∀ path ∈ sts.tokenFile, path.IsNormal := by
  obtain ⟨withSession, session, hsession, -, rfl⟩ := Checked.apply_eq_ok h
  obtain ⟨withUpdate, update, hupdate, -, rfl⟩ := Checked.apply_eq_ok hsession
  obtain ⟨withFile, file, hgiven, hfile, rfl⟩ := Checked.apply_eq_ok hupdate
  obtain ⟨withRole, role, hrole, -, rfl⟩ := Checked.apply_eq_ok hgiven
  obtain ⟨enabled, -, rfl⟩ := Checked.map_eq_ok hrole
  exact field_isNormal hfile

theorem checkOptionalSection_cases {α : Type} {title : String} {check : Mapping → Checked α}
    {v : Value} {part : Option α} (h : checkOptionalSection title check v = .ok part) :
    ∀ a ∈ part, ∃ m, check m = .ok a := by
  unfold checkOptionalSection at h
  split at h
  · cases h
    nofun
  · split at h
    · obtain ⟨a, ha, rfl⟩ := Checked.map_eq_ok h
      intro b hb
      cases hb
      exact ⟨_, ha⟩
    · cases h

theorem field_section_cases {α : Type} {m : Mapping} {name title : String}
    {check : Mapping → Checked α} {part : Option α}
    (h : Checked.field m name none (checkOptionalSection title check) = .ok part) :
    ∀ a ∈ part, ∃ m, check m = .ok a := by
  rcases Checked.field_eq_ok h with rfl | ⟨v, hv⟩
  · nofun
  · exact checkOptionalSection_cases hv

theorem checkCredentials_isNormal {m : Mapping} {p : CredentialsProperties}
    (h : checkCredentials m = .ok p) : p.IsNormal := by
  obtain ⟨withSts, sts, hgiven, hsts, rfl⟩ := Checked.apply_eq_ok h
  obtain ⟨withProfile, profile, hinstance, hprofile, rfl⟩ := Checked.apply_eq_ok hgiven
  obtain ⟨withInstance, instanceProfile, hsecret, -, rfl⟩ := Checked.apply_eq_ok hinstance
  obtain ⟨withSecret, secretKey, haccess, -, rfl⟩ := Checked.apply_eq_ok hsecret
  obtain ⟨accessKey, -, rfl⟩ := Checked.map_eq_ok haccess
  constructor
  · intro given hg
    obtain ⟨m, hm⟩ := field_section_cases hprofile given hg
    exact checkProfile_isNormal hm
  · intro given hg
    obtain ⟨m, hm⟩ := field_section_cases hsts given hg
    exact checkSts_isNormal hm

theorem checkSettings_isNormal {m : Mapping} {settings : Settings}
    (h : checkSettings m = .ok settings) : settings.credentials.IsNormal := by
  obtain ⟨withRegion, region, hgiven, -, rfl⟩ := Checked.apply_eq_ok h
  obtain ⟨credentials, hc, rfl⟩ := Checked.map_eq_ok hgiven
  rcases Checked.field_eq_ok hc with rfl | ⟨v, hv⟩
  · exact ⟨nofun, nofun⟩
  · unfold checkGivenSection at hv
    split at hv
    · exact checkCredentials_isNormal hv
    · cases hv

theorem settingsFrom_isNormal {title : String} {path : Option Path} {w : World}
    {settings : Settings} (h : settingsFrom title path w = .ok settings) :
    settings.credentials.IsNormal := by
  unfold settingsFrom at h
  cases hg : gatherSettings path w with
  | error failure =>
    rw [hg] at h
    cases h
  | ok m =>
    rw [hg] at h
    have h : (checkSettings m).mapError (Failure.invalid title) = .ok settings := h
    cases hc : checkSettings m with
    | error problems =>
      rw [hc] at h
      cases h
    | ok found =>
      rw [hc] at h
      cases h
      exact checkSettings_isNormal hc

/-- The paths of loaded settings are in normal form. -/
theorem loadSettings_isNormal {config : Option String} {w v : World} {settings : Settings}
    (h : loadSettings config w = (.ok settings, v)) : settings.credentials.IsNormal := by
  unfold loadSettings at h
  split at h
  · exact settingsFrom_isNormal (Prod.mk.inj h).1
  · dsimp only at h
    split at h
    · exact settingsFrom_isNormal (Prod.mk.inj h).1
    · cases h

end CloudCredentials
