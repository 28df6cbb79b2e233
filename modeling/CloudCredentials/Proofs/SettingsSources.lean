import CloudCredentials.Proofs.SettingsTree

/-!
# What the sources of settings give

Variables and config files that give texts to the leaves of the settings, each in its own way, are
read as trees of these texts.
-/

namespace CloudCredentials

/-! ### The leaves of the settings -/

namespace Section

def profileParts : List (String × Layout) := [("name", .leaf), ("path", .leaf)]

def stsParts : List (String × Layout) :=
  [("enabled", .leaf), ("role_arn", .leaf), ("web_identity_token_file", .leaf),
    ("async_credentials_update", .leaf), ("role_session_name", .leaf)]

/-- What is known below a section. -/
def known : Section → List (String × Layout)
  | .credentials =>
    [("access_key", .leaf), ("secret_key", .leaf), ("instance_profile", .leaf),
      ("profile", .group profileParts), ("sts", .group stsParts)]
  | .region => [("static", .leaf)]

def layout (s : Section) : Layout := .group s.known

/-- The names that lead to the leaves of a section. -/
def leaves : Section → List (List String)
  | .credentials =>
    [["access_key"], ["secret_key"], ["instance_profile"], ["profile", "name"],
      ["profile", "path"], ["sts", "enabled"], ["sts", "role_arn"],
      ["sts", "web_identity_token_file"], ["sts", "async_credentials_update"],
      ["sts", "role_session_name"]]
  | .region => [["static"]]

theorem leads_of_mem_leaves {s : Section} {path : List String} (h : path ∈ s.leaves) :
    s.layout.leads path = true := by
  have hall : ∀ path ∈ s.leaves, s.layout.leads path = true := by
    cases s <;> decide
  exact hall path h

theorem mem_leaves_of_leads {s : Section} {path : List String} (h : s.layout.leads path = true) :
    path ∈ s.leaves := by
  obtain ⟨name, part, rest, hmem, rfl, hlead⟩ := Layout.exists_mem_of_leads h
  cases s with
  | credentials =>
    simp only [known, List.mem_cons, Prod.mk.injEq, List.not_mem_nil, or_false] at hmem
    rcases hmem with ⟨rfl, rfl⟩ | ⟨rfl, rfl⟩ | ⟨rfl, rfl⟩ | ⟨rfl, rfl⟩ | ⟨rfl, rfl⟩
    · simp [Layout.eq_nil_of_leads_leaf hlead, leaves]
    · simp [Layout.eq_nil_of_leads_leaf hlead, leaves]
    · simp [Layout.eq_nil_of_leads_leaf hlead, leaves]
    · obtain ⟨name, part, rest, hmem, rfl, hlead⟩ := Layout.exists_mem_of_leads hlead
      simp only [profileParts, List.mem_cons, Prod.mk.injEq, List.not_mem_nil, or_false] at hmem
      rcases hmem with ⟨rfl, rfl⟩ | ⟨rfl, rfl⟩ <;>
        simp [Layout.eq_nil_of_leads_leaf hlead, leaves]
    · obtain ⟨name, part, rest, hmem, rfl, hlead⟩ := Layout.exists_mem_of_leads hlead
      simp only [stsParts, List.mem_cons, Prod.mk.injEq, List.not_mem_nil, or_false] at hmem
      rcases hmem with ⟨rfl, rfl⟩ | ⟨rfl, rfl⟩ | ⟨rfl, rfl⟩ | ⟨rfl, rfl⟩ | ⟨rfl, rfl⟩ <;>
        simp [Layout.eq_nil_of_leads_leaf hlead, leaves]
  | region =>
    simp only [known, List.mem_cons, Prod.mk.injEq, List.not_mem_nil, or_false] at hmem
    obtain ⟨rfl, rfl⟩ := hmem
    simp [Layout.eq_nil_of_leads_leaf hlead, leaves]

/-- The name of the variable for a leaf, in lower case. -/
def leafVariable (s : Section) (path : List String) : String :=
  s.partStart ++ "__".intercalate path

/-- The steps that the name of a variable says. -/
def stepsIn (s : Section) (name : String) : List String :=
  stepsOf (name.toList.drop s.partStart.toList.length)

theorem toList_leafVariable (s : Section) (path : List String) :
    (s.leafVariable path).toList = s.partStart.toList ++ ("__".intercalate path).toList :=
  String.toList_append ..

theorem stepsIn_leafVariable {s : Section} {path : List String} (h : path ∈ s.leaves) :
    s.stepsIn (s.leafVariable path) = path := by
  have hall : ∀ path ∈ s.leaves, stepsOf ("__".intercalate path).toList = path := by
    cases s <;> decide
  rw [stepsIn, toList_leafVariable, List.drop_left]
  exact hall path h

theorem partStart_isPrefixOf_leafVariable (s t : Section) (path : List String) :
    t.partStart.toList.isPrefixOf (s.leafVariable path).toList = decide (t = s) := by
  rw [toList_leafVariable]
  cases s <;> cases t <;> rfl

theorem leafVariable_ne_variableName {s t : Section} {path : List String} (h : path ∈ s.leaves) :
    s.leafVariable path ≠ t.variableName := by
  have hall : ∀ path ∈ s.leaves, s.leafVariable path ≠ t.variableName := by
    cases s <;> cases t <;> decide
  exact hall path h

theorem eq_of_leafVariable_eq {s t : Section} {path other : List String} (h : path ∈ s.leaves)
    (h' : other ∈ t.leaves) (heq : s.leafVariable path = t.leafVariable other) :
    s = t ∧ path = other := by
  have hst : s = t := by
    have hprefix : s.partStart.toList.isPrefixOf (s.leafVariable path).toList = true := by
      rw [partStart_isPrefixOf_leafVariable, decide_eq_true_eq]
    rw [heq, partStart_isPrefixOf_leafVariable] at hprefix
    exact of_decide_eq_true hprefix
  subst hst
  refine ⟨rfl, ?_⟩
  rw [← stepsIn_leafVariable h, heq, stepsIn_leafVariable h']

/-- The name of the variable for a leaf, in upper case. -/
def upperVariable (s : Section) (path : List String) : String :=
  String.ofList ((s.leafVariable path).toList.map Char.toUpper)

/-- The characters of the names that lead to leaves. -/
def nameChars : List Char := "abcdefghijklmnopqrstuvwxyz_".toList

theorem lowerChar_toUpper {c : Char} (h : c ∈ nameChars) : Text.lowerChar c.toUpper = [c] := by
  have hall : (nameChars.all fun c => Text.lowerChar c.toUpper = [c]) = true := by decide
  exact of_decide_eq_true (List.all_eq_true.mp hall c h)

theorem mem_nameChars {s : Section} {path : List String} (h : path ∈ s.leaves) {c : Char}
    (hc : c ∈ (s.leafVariable path).toList) : c ∈ nameChars := by
  have hstart : s.partStart.toList.all nameChars.contains = true := by
    cases s <;> decide
  have hending : (s.leaves.all fun path =>
      ("__".intercalate path).toList.all nameChars.contains) = true := by
    cases s <;> decide
  rw [toList_leafVariable, List.mem_append] at hc
  rw [← List.contains_iff_mem]
  rcases hc with hc | hc
  · exact List.all_eq_true.mp hstart c hc
  · exact List.all_eq_true.mp (List.all_eq_true.mp hending path h) c hc

theorem lower_upperVariable {s : Section} {path : List String} (h : path ∈ s.leaves) :
    Text.lower (s.upperVariable path) = s.leafVariable path := by
  have hchars : Text.lowerChars ((s.leafVariable path).toList.map Char.toUpper) =
      (s.leafVariable path).toList := by
    rw [Text.lowerChars, List.flatMap_map]
    refine Eq.trans (List.flatMap_congr fun c hc => ?_) (List.flatMap_singleton' _)
    exact lowerChar_toUpper (mem_nameChars h hc)
  rw [Text.lower, upperVariable, String.toList_ofList, hchars, String.ofList_toList]

example : Section.credentials.upperVariable ["sts", "role_arn"] =
    "AWS_AUTOCONFIG_CREDENTIALS__STS__ROLE_ARN" := rfl

theorem exists_part_of_mem_leaves {s : Section} {path : List String} (h : path ∈ s.leaves) :
    ∃ name ∈ s.parts, ∃ rest, path = name :: rest := by
  cases path with
  | nil => cases s <;> simp [leaves] at h
  | cons name rest =>
    have hall : ∀ path ∈ s.leaves, ∀ name ∈ path.head?, name ∈ s.parts := by
      cases s <;> decide
    exact ⟨name, hall _ h name rfl, rest, rfl⟩

theorem partValue_of_mem_leaves {s : Section} {path : List String} (h : path ∈ s.leaves)
    (text : String) : partValue s path (some text) = .text text := by
  cases s <;> simp only [leaves, List.mem_cons, List.not_mem_nil, or_false] at h
  · rcases h with rfl | rfl | rfl | rfl | rfl | rfl | rfl | rfl | rfl | rfl <;> rfl
  · subst h
    rfl

end Section

/-! ### Variables of the leaves -/

namespace Variables

theorem lowerNames_append_singleton (vars : Variables) (v : String × Option String) :
    lowerNames (vars ++ [v]) = Dotenv.put (lowerNames vars) (Text.lower v.1) v.2 := by
  simp [lowerNames]

theorem mem_put {vars : Variables} {name : String} {value : Option String}
    {v : String × Option String} (h : v ∈ Dotenv.put vars name value) :
    v = (name, value) ∨ v ∈ vars := by
  unfold Dotenv.put at h
  split at h
  · obtain ⟨u, hu, rfl⟩ := List.mem_map.mp h
    split
    · exact .inl rfl
    · exact .inr hu
  · rcases List.mem_append.mp h with h | h
    · exact .inr h
    · exact .inl (List.mem_singleton.mp h)

theorem exists_mem_put {vars : Variables} {name other : String} (value : Option String)
    (h : other = name ∨ ∃ u ∈ vars, u.1 = other) :
    ∃ v ∈ Dotenv.put vars name value, v.1 = other := by
  unfold Dotenv.put
  split
  · rename_i hany
    have hold : ∃ u ∈ vars, u.1 = other := by
      rcases h with rfl | h
      · simpa using hany
      · exact h
    obtain ⟨u, hu, rfl⟩ := hold
    refine ⟨_, List.mem_map.mpr ⟨u, hu, rfl⟩, ?_⟩
    split
    · exact Eq.symm ‹_›
    · rfl
  · rcases h with rfl | ⟨u, hu, rfl⟩
    · exact ⟨_, List.mem_append_right _ (List.mem_singleton_self _), rfl⟩
    · exact ⟨u, List.mem_append_left _ hu, rfl⟩

theorem exists_of_mem_lowerNames {vars : Variables} {v : String × Option String}
    (h : v ∈ lowerNames vars) : ∃ u ∈ vars, v = (Text.lower u.1, u.2) := by
  induction vars using List.reverseRecOn with
  | nil => cases h
  | append_singleton vars u ih =>
    rw [lowerNames_append_singleton] at h
    rcases mem_put h with rfl | h
    · exact ⟨u, by simp, rfl⟩
    · obtain ⟨other, hother, rfl⟩ := ih h
      exact ⟨other, List.mem_append_left _ hother, rfl⟩

theorem exists_mem_lowerNames {vars : Variables} {u : String × Option String} (h : u ∈ vars) :
    ∃ v ∈ lowerNames vars, v.1 = Text.lower u.1 := by
  induction vars using List.reverseRecOn with
  | nil => cases h
  | append_singleton vars last ih =>
    rw [lowerNames_append_singleton]
    rcases List.mem_append.mp h with h | h
    · exact exists_mem_put _ (.inr (ih h))
    · cases List.mem_singleton.mp h
      exact exists_mem_put _ (.inl rfl)

/-- The name is the one of a section's variable, or continues it. -/
def SaysSetting (name : String) : Prop :=
  ∃ s : Section, name = s.variableName ∨ s.partStart.toList.isPrefixOf name.toList = true

/-- Variables that give texts to the leaves: a leaf with a text has its variable, in upper or lower
case, and no other variable says anything about the settings. -/
structure Gives (vars : Variables) (a : Section → Texts) : Prop where
  text : ∀ s : Section, ∀ path ∈ s.leaves, ∀ text, a s path = some text ↔
    ∃ v ∈ vars, Text.lower v.1 = s.leafVariable path ∧ v.2 = some text
  known : ∀ v ∈ vars, SaysSetting (Text.lower v.1) →
    ∃ s : Section, ∃ path ∈ s.leaves, ∃ text, Text.lower v.1 = s.leafVariable path ∧ v.2 = some text

/-- The variables that give texts, in upper case: one for each leaf that has a text. -/
def ofTexts (a : Section → Texts) : Variables :=
  Section.all.flatMap fun s =>
    s.leaves.filterMap fun path => (a s path).map fun text => (s.upperVariable path, some text)

theorem mem_ofTexts {a : Section → Texts} {v : String × Option String} :
    v ∈ ofTexts a ↔ ∃ s : Section, ∃ path ∈ s.leaves, ∃ text, a s path = some text ∧
      v = (s.upperVariable path, some text) := by
  simp only [ofTexts, List.mem_flatMap, List.mem_filterMap, Option.map_eq_some_iff]
  constructor
  · rintro ⟨s, -, path, hpath, text, ha, rfl⟩
    exact ⟨s, path, hpath, text, ha, rfl⟩
  · rintro ⟨s, path, hpath, text, ha, rfl⟩
    exact ⟨s, Section.mem_all s, path, hpath, text, ha, rfl⟩

/-- Whatever texts the leaves are to have, variables can give them. -/
theorem gives_ofTexts (a : Section → Texts) : (ofTexts a).Gives a := by
  refine ⟨fun s path hpath text => ⟨fun ha => ?_, ?_⟩, fun v hv _ => ?_⟩
  · exact ⟨_, mem_ofTexts.mpr ⟨s, path, hpath, text, ha, rfl⟩,
      Section.lower_upperVariable hpath, rfl⟩
  · rintro ⟨v, hv, hname, htext⟩
    obtain ⟨t, other, hother, text', ha, rfl⟩ := mem_ofTexts.mp hv
    rw [Section.lower_upperVariable hother] at hname
    obtain ⟨rfl, rfl⟩ := Section.eq_of_leafVariable_eq hother hpath hname
    rw [ha]
    exact htext
  · obtain ⟨s, path, hpath, text, -, rfl⟩ := mem_ofTexts.mp hv
    exact ⟨s, path, hpath, text, Section.lower_upperVariable hpath, rfl⟩

namespace Gives

variable {vars : Variables} {a : Section → Texts} {s : Section}

theorem leaf_of_isPrefixOf (h : vars.Gives a) {v : String × Option String}
    (hv : v ∈ lowerNames vars) (hs : s.partStart.toList.isPrefixOf v.1.toList = true) :
    ∃ path ∈ s.leaves, ∃ text, v = (s.leafVariable path, some text) ∧ a s path = some text := by
  obtain ⟨u, hu, rfl⟩ := exists_of_mem_lowerNames hv
  obtain ⟨t, path, hpath, text, hname, htext⟩ := h.known u hu ⟨s, .inr hs⟩
  have hst : s = t := by
    rw [hname, Section.partStart_isPrefixOf_leafVariable] at hs
    exact of_decide_eq_true hs
  subst hst
  have ha : a s path = some text := (h.text s path hpath text).mpr ⟨u, hu, hname, htext⟩
  exact ⟨path, hpath, text, by rw [hname, htext], ha⟩

theorem value?_variableName (h : vars.Gives a) :
    (lowerNames vars).value? s.variableName = none := by
  have hlookup : (lowerNames vars).lookup s.variableName = none := by
    rw [List.lookup_eq_none_iff]
    intro v hv
    obtain ⟨u, hu, rfl⟩ := exists_of_mem_lowerNames hv
    rw [bne_iff_ne]
    intro hname
    obtain ⟨t, path, hpath, text, hleaf, -⟩ := h.known u hu ⟨s, .inl hname.symm⟩
    exact Section.leafVariable_ne_variableName hpath (hleaf.symm.trans hname.symm)
  rw [value?, hlookup, Option.join_none]

end Gives

/-- The texts that variables give to the leaves of a section. -/
def textsOf (s : Section) (vars : Variables) : List (List String × String) :=
  vars.filterMap fun v =>
    if s.partStart.toList.isPrefixOf v.1.toList then v.2.map (s.stepsIn v.1, ·) else none

namespace Gives

variable {vars : Variables} {a : Section → Texts}

theorem partsOf_eq (h : vars.Gives a) (s : Section) :
    partsOf s (lowerNames vars) = Mapping.ofTexts (textsOf s (lowerNames vars)) := by
  rw [partsOf, Mapping.ofTexts, textsOf, List.foldl_filterMap]
  refine List.foldl_ext _ _ _ fun m v hv => ?_
  by_cases hs : s.partStart.toList.isPrefixOf v.1.toList = true
  · obtain ⟨path, hpath, text, rfl, -⟩ := h.leaf_of_isPrefixOf hv hs
    have hsteps := Section.stepsIn_leafVariable hpath
    have hvalue := Section.partValue_of_mem_leaves hpath text
    rw [Section.stepsIn] at hsteps
    simp only [putPart, if_pos hs, Section.stepsIn, hsteps, hvalue, Option.map_some]
  · simp only [putPart, if_neg hs]

theorem mem_textsOf (h : vars.Gives a) {s : Section} {e : List String × String} :
    e ∈ textsOf s (lowerNames vars) ↔ e.1 ∈ s.leaves ∧ a s e.1 = some e.2 := by
  obtain ⟨path, text⟩ := e
  constructor
  · intro he
    obtain ⟨v, hv, hve⟩ := List.mem_filterMap.mp he
    split at hve
    · rename_i hs
      obtain ⟨path, hpath, text, rfl, ha⟩ := h.leaf_of_isPrefixOf hv hs
      rw [Option.map_some, Section.stepsIn_leafVariable hpath] at hve
      cases hve
      exact ⟨hpath, ha⟩
    · cases hve
  · rintro ⟨hpath, ha⟩
    dsimp only at hpath ha
    obtain ⟨u, hu, hname, -⟩ := (h.text s path hpath text).mp ha
    obtain ⟨v, hv, hvu⟩ := exists_mem_lowerNames hu
    have hs : s.partStart.toList.isPrefixOf v.1.toList = true := by
      rw [hvu, hname, Section.partStart_isPrefixOf_leafVariable, decide_eq_true_eq]
    obtain ⟨other, hother, text', rfl, ha'⟩ := h.leaf_of_isPrefixOf hv hs
    obtain ⟨-, rfl⟩ := Section.eq_of_leafVariable_eq hother hpath (hvu.trans hname)
    cases ha.symm.trans ha'
    refine List.mem_filterMap.mpr ⟨_, hv, ?_⟩
    rw [if_pos hs, Option.map_some, Section.stepsIn_leafVariable hpath]

theorem fits (h : vars.Gives a) (s : Section) :
    Fits (a s) s.layout (partsOf s (lowerNames vars)).given := by
  rw [h.partsOf_eq]
  refine Fits.ofTexts (fun e he => ?_) fun path text hlead ha => ?_
  · obtain ⟨hpath, ha⟩ := h.mem_textsOf.mp he
    exact ⟨Section.leads_of_mem_leaves hpath, ha⟩
  · have hpath := Section.mem_leaves_of_leads hlead
    exact List.mem_map.mpr ⟨(path, text), h.mem_textsOf.mpr ⟨hpath, ha⟩, rfl⟩

end Gives

end Variables

/-! ### Sections of the settings -/

/-- The mapping from the sections to what is said about them. -/
def sectionEntries (f : Section → Option Value) : Mapping :=
  Section.all.filterMap fun s => (f s).map (Value.text s.name, ·)

/-- A mapping gives texts to the leaves of the sections. -/
structure Mapping.Gives (m : Mapping) (a : Section → Texts) : Prop where
  nodup : m.names.Nodup
  fits : ∀ s, Fits (a s) s.layout (m.get? s.name)

theorem get?_sectionEntries (f : Section → Option Value) (s : Section) :
    (sectionEntries f).get? s.name = f s := by
  cases hc : f .credentials <;> cases hr : f .region <;> cases s <;>
    simp [sectionEntries, Section.all, hc, hr, Mapping.get?, Mapping.find?, Section.name]

theorem names_sectionEntries_nodup (f : Section → Option Value) :
    (sectionEntries f).names.Nodup := by
  cases hc : f .credentials <;> cases hr : f .region <;>
    simp [sectionEntries, Section.all, hc, hr, Mapping.names, Section.name, Value.text?]

theorem Mapping.Gives.of_sections {f : Section → Option Value} {a : Section → Texts}
    (h : ∀ s, Fits (a s) s.layout (f s)) : (sectionEntries f).Gives a :=
  ⟨names_sectionEntries_nodup f, fun s => by rw [get?_sectionEntries]; exact h s⟩

/-! ### Sections by variable -/

namespace Mapping

theorem key_of_mem_ofTexts {entries : List (List String × String)} {e : Value × Value}
    (h : e ∈ ofTexts entries) :
    ∃ t ∈ entries, ∃ name rest, t.1 = name :: rest ∧ e.1 = .text name := by
  induction entries using List.reverseRecOn generalizing e with
  | nil => cases h
  | append_singleton entries t ih =>
    obtain ⟨path, text⟩ := t
    have hold : ∀ e ∈ ofTexts entries, ∃ t ∈ entries ++ [(path, text)],
        ∃ name rest, t.1 = name :: rest ∧ e.1 = .text name := by
      intro e he
      obtain ⟨t, ht, hkey⟩ := ih he
      exact ⟨t, List.mem_append_left _ ht, hkey⟩
    rw [ofTexts_append_singleton] at h
    cases path with
    | nil => exact hold e h
    | cons name rest =>
      rcases mem_putAt h with hname | ⟨other, hother, hkey⟩
      · exact ⟨(name :: rest, text), by simp, name, rest, rfl, hname⟩
      · rw [← hkey]
        exact hold other hother

theorem ofEntries_eq_self {m : Mapping} (htext : ∀ e ∈ m, ∃ name, e.1 = .text name)
    (hm : m.names.Nodup) : ofEntries m = m := by
  induction m using List.reverseRecOn with
  | nil => rfl
  | append_singleton m e ih =>
    obtain ⟨name, hname⟩ := htext e (by simp)
    have hnames : names (m ++ [e]) = names m ++ [name] := by
      simp [names, hname, Value.text?]
    rw [hnames, List.nodup_append] at hm
    have hfresh : ¬ (m.any fun other => other.1.sameKey e.1) = true := by
      rw [hname, any_sameKey_iff]
      exact fun hn => hm.2.2 name hn name (List.mem_singleton_self name) rfl
    have hinit : ofEntries m = m := ih (fun e he => htext e (List.mem_append_left _ he)) hm.1
    rw [ofEntries, List.foldl_append]
    rw [ofEntries] at hinit
    rw [hinit, List.foldl_cons, List.foldl_nil, put, if_neg hfresh]

end Mapping

theorem find?_parts {s : Section} {name : String} (h : name ∈ s.parts) :
    (s.parts.find? (Text.lower · = Text.lower name)) = some name := by
  have hall : ∀ name ∈ s.parts,
      (s.parts.find? (Text.lower · = Text.lower name)) = some name := by
    cases s <;> decide
  exact hall name h

/-- Parts that are spelled as in the settings stay as they are. -/
theorem spelled_eq_self {s : Section} {m : Mapping}
    (h : ∀ e ∈ m, ∃ name ∈ s.parts, e.1 = .text name) (hm : m.names.Nodup) : spelled s m = m := by
  have htext : ∀ e ∈ m, ∃ name, e.1 = Value.text name := by
    intro e he
    obtain ⟨name, -, hname⟩ := h e he
    exact ⟨name, hname⟩
  refine Eq.trans ?_ (Mapping.ofEntries_eq_self htext hm)
  rw [spelled]
  congr 1
  conv_rhs => rw [← List.map_id m]
  refine List.map_congr_left fun e he => ?_
  obtain ⟨name, hname, hkey⟩ := h e he
  obtain ⟨key, value⟩ := e
  subst hkey
  simp only [find?_parts hname, id]

namespace Variables.Gives

variable {vars : Variables} {a : Section → Texts}

theorem sectionOf_eq (h : vars.Gives a) (origin : String) (s : Section) :
    sectionOf origin s (lowerNames vars) = .ok (partsOf s (lowerNames vars)).given := by
  have hspelled : spelled s (partsOf s (lowerNames vars)) = partsOf s (lowerNames vars) := by
    refine spelled_eq_self ?_ (h.fits s).nodup
    intro e he
    rw [h.partsOf_eq] at he
    obtain ⟨t, ht, name, rest, hpath, hkey⟩ := Mapping.key_of_mem_ofTexts he
    obtain ⟨part, hpart, rest', hpath'⟩ := Section.exists_part_of_mem_leaves (h.mem_textsOf.mp ht).1
    cases hpath.symm.trans hpath'
    exact ⟨name, hpart, hkey⟩
  simp only [sectionOf, h.value?_variableName, hspelled, Mapping.given]

theorem settingsOf_eq (h : vars.Gives a) (origin : String) :
    settingsOf origin (lowerNames vars) =
      .ok (sectionEntries fun s => (partsOf s (lowerNames vars)).given) := by
  have hsections : ∀ sections : List Section,
      sectionsOf origin (lowerNames vars) sections =
        .ok (sections.filterMap fun s =>
          (partsOf s (lowerNames vars)).given.map (Value.text s.name, ·)) := by
    intro sections
    induction sections with
    | nil => rfl
    | cons s rest ih =>
      rw [sectionsOf, h.sectionOf_eq, ih, List.filterMap_cons]
      cases (partsOf s (lowerNames vars)).given <;> rfl
  exact hsections Section.all

/-- Variables that give texts to the leaves are read as a tree of these texts. -/
theorem exists_settings (h : vars.Gives a) (origin : String) :
    ∃ m, settingsOf origin (lowerNames vars) = .ok m ∧ m.Gives a :=
  ⟨_, h.settingsOf_eq origin, .of_sections h.fits⟩

end Variables.Gives

/-! ### Sections of a config file -/

theorem Section.isNamed_name (s t : Section) :
    s.isNamed (.text t.name) = decide (t = s) := by
  cases s <;> cases t <;> rfl

theorem Section.last?_eq_get? {s : Section} {m : Mapping}
    (h : ∀ e ∈ m, ∃ t : Section, e.1 = .text t.name) (hm : m.names.Nodup) :
    s.last? m = m.get? s.name := by
  induction m with
  | nil => rfl
  | cons e rest ih =>
    obtain ⟨t, ht⟩ := h e (List.mem_cons_self ..)
    have hrest : ∀ e ∈ rest, ∃ t : Section, e.1 = .text t.name :=
      fun e he => h e (List.mem_cons_of_mem _ he)
    obtain ⟨key, value⟩ := e
    dsimp only at ht
    subst ht
    rw [Mapping.names_cons_text, List.nodup_cons] at hm
    by_cases hst : t = s
    · subst hst
      have hnone : rest.filter (fun e => t.isNamed e.1) = [] := by
        refine List.filter_eq_nil_iff.mpr fun e he => ?_
        obtain ⟨u, hu⟩ := hrest e he
        rw [hu, Section.isNamed_name, decide_eq_true_eq]
        rintro rfl
        exact hm.1 (Mapping.mem_names.mpr ⟨e.2, hu ▸ he⟩)
      have htt : t.isNamed (.text t.name) = true := by simp [Section.isNamed_name]
      rw [Section.last?, List.filter_cons, if_pos htt, hnone, Mapping.get?_cons_self]
      rfl
    · have hts : ¬ s.isNamed (.text t.name) = true := by simpa [Section.isNamed_name] using hst
      have hkey : Value.text t.name ≠ .text s.name := by
        cases t <;> cases s <;> simp_all [Section.name]
      rw [Section.last?, List.filter_cons, if_neg hts, Mapping.get?_cons_of_ne hkey]
      exact ih hrest hm.2

/-- A mapping whose keys are sections stands for itself. -/
theorem exists_sectionsIn {m : Mapping} {a : Section → Texts} (h : m.Gives a)
    (hkeys : ∀ e ∈ m, ∃ s : Section, e.1 = .text s.name) :
    ∃ found, sectionsIn m = .ok found ∧ found.Gives a := by
  refine ⟨sectionEntries fun s => s.last? m, ?_, .of_sections fun s => ?_⟩
  · rw [sectionsIn, if_pos]
    · rfl
    · refine List.all_eq_true.mpr fun e he => ?_
      obtain ⟨s, hs⟩ := hkeys e he
      rw [hs]
      rfl
  · rw [Section.last?_eq_get? hkeys h.nodup]
    exact h.fits s

end CloudCredentials
