import CloudCredentials.Settings.Load
import Mathlib.Data.List.Induction
import Mathlib.Data.List.Nodup

/-!
# Trees of texts

A mapping that gives texts to known leaves only, whatever the order of its entries: each leaf has
its text or is absent, and a group is there when one of its leaves is. Such mappings are told apart
by the texts of their leaves alone, and laying one over another one does so leaf by leaf.
-/

namespace CloudCredentials

/-! ### Names of a mapping -/

namespace Mapping

/-- The names among the keys of a mapping. -/
def names (m : Mapping) : List String := m.filterMap (·.1.text?)

theorem sameKey_of_text_iff {name : String} {key : Value} :
    (Value.text name).sameKey key = true ↔ key = .text name := by
  cases key <;> simp [Value.sameKey, Value.integer?, eq_comm]

theorem names_cons_text (name : String) (value : Value) (rest : Mapping) :
    names ((.text name, value) :: rest) = name :: rest.names := rfl

theorem mem_names {m : Mapping} {name : String} :
    name ∈ m.names ↔ ∃ value, (Value.text name, value) ∈ m := by
  constructor
  · intro h
    obtain ⟨⟨key, value⟩, he, ht⟩ := List.mem_filterMap.mp h
    cases key with
    | text s =>
      cases ht
      exact ⟨value, he⟩
    | _ => cases ht
  · rintro ⟨value, h⟩
    exact List.mem_filterMap.mpr ⟨_, h, rfl⟩

theorem get?_cons_of_ne {m : Mapping} {key value : Value} {name : String}
    (h : key ≠ .text name) : get? ((key, value) :: m) name = m.get? name := by
  have hk : key.sameKey (.text name) = false := by
    rw [Bool.eq_false_iff, ne_eq, Value.sameKey_text_iff]
    exact h
  simp [get?, find?, hk]

theorem get?_cons_self (m : Mapping) (name : String) (value : Value) :
    get? ((.text name, value) :: m) name = some value := by
  simp [get?, find?]

theorem get?_eq_none {m : Mapping} {name : String} (h : name ∉ m.names) :
    m.get? name = none := by
  induction m with
  | nil => rfl
  | cons e rest ih =>
    have hrest : name ∉ names rest := by
      intro hn
      obtain ⟨value, hv⟩ := mem_names.mp hn
      exact h (mem_names.mpr ⟨value, List.mem_cons_of_mem _ hv⟩)
    have hkey : e.1 ≠ .text name := by
      intro he
      exact h (mem_names.mpr ⟨e.2, he ▸ List.mem_cons_self ..⟩)
    rw [get?_cons_of_ne hkey, ih hrest]

/-! ### Putting a value -/

theorem any_sameKey_iff {m : Mapping} {name : String} :
    (m.any fun e => e.1.sameKey (.text name)) = true ↔ name ∈ m.names := by
  simp [Value.sameKey_text_iff, mem_names, Prod.exists]

theorem get?_put_of_ne {m : Mapping} {key value : Value} {name : String}
    (h : key ≠ .text name) : (m.put key value).get? name = m.get? name := by
  unfold put
  split
  · rename_i hany
    clear hany
    induction m with
    | nil => rfl
    | cons e rest ih =>
      by_cases he : e.1 = .text name
      · have hk : e.1.sameKey key = false := by
          rw [he, Bool.eq_false_iff, ne_eq, sameKey_of_text_iff]
          exact h
        obtain ⟨k, v⟩ := e
        subst he
        simp [hk, get?_cons_self]
      · rw [List.map_cons, get?_cons_of_ne he, ← ih]
        split <;> exact get?_cons_of_ne he
  · simp [get?, find?, List.find?_append, Value.sameKey_text_iff, h]

theorem names_put (m : Mapping) (key value : Value) :
    (m.put key value).names =
      if m.any (·.1.sameKey key) then m.names else m.names ++ key.text?.toList := by
  unfold put
  split
  · simp only [names, List.filterMap_map]
    congr 1
    funext e
    simp only [Function.comp_apply]
    split <;> rfl
  · cases h : key.text? <;> simp [names, h]

theorem names_put_nodup {m : Mapping} (hm : m.names.Nodup) (key value : Value) :
    (m.put key value).names.Nodup := by
  rw [names_put]
  split
  · exact hm
  · rename_i hany
    cases key with
    | text name =>
      have hn : name ∉ m.names := fun h => hany (any_sameKey_iff.mpr h)
      exact List.Nodup.append hm (List.nodup_singleton name) (List.disjoint_singleton.mpr hn)
    | _ => simpa [Value.text?] using hm

end Mapping

/-! ### Laying a mapping over another one -/

/-- What there is when a value that may be absent is laid over another one. -/
def Value.above (base : Option Value) : Option Value → Option Value
  | none => base
  | some v => some (Value.over base v)

theorem Value.over_none (v : Value) : Value.over none v = v := by
  cases v <;> simp [Value.over]

namespace Mapping

theorem over_cons (base : Mapping) (key value : Value) (rest : Mapping) :
    Mapping.over base ((key, value) :: rest) =
      Mapping.over (base.put key (Value.over (base.find? key) value)) rest := by
  simp [Mapping.over]

theorem names_over_nodup {base : Mapping} (h : base.names.Nodup) (upper : Mapping) :
    (Mapping.over base upper).names.Nodup := by
  induction upper generalizing base with
  | nil => simpa [Mapping.over] using h
  | cons e rest ih =>
    obtain ⟨key, value⟩ := e
    rw [over_cons]
    exact ih (names_put_nodup h _ _)

/-- A name is looked up in a mapping over another one by looking it up in both. -/
theorem get?_over (base : Mapping) {upper : Mapping} (h : upper.names.Nodup) (name : String) :
    (Mapping.over base upper).get? name = Value.above (base.get? name) (upper.get? name) := by
  induction upper generalizing base with
  | nil => simp [Mapping.over, get?, find?, Value.above]
  | cons e rest ih =>
    obtain ⟨key, value⟩ := e
    have hrest : (names rest).Nodup := h.sublist ((List.sublist_cons_self _ rest).filterMap _)
    rw [over_cons, ih _ hrest]
    by_cases hk : key = .text name
    · subst hk
      rw [names_cons_text, List.nodup_cons] at h
      rw [get?_eq_none h.1, get?_cons_self]
      exact get?_set _ _ _
    · rw [get?_put_of_ne hk, get?_cons_of_ne hk]

/-- The value that a mapping is; the empty one is none. -/
def given (m : Mapping) : Option Value := if m.isEmpty then none else some (.map m)

theorem given_of_ne_nil {m : Mapping} (h : m ≠ []) : m.given = some (.map m) := by
  simp [given, h]

end Mapping

/-! ### Texts by path -/

/-- Texts by the names that lead to them. -/
abbrev Texts := List String → Option String

namespace Texts

/-- The texts below a name. -/
def under (a : Texts) (name : String) : Texts := fun path => a (name :: path)

/-- The texts of the first, and of the second where the first has none. -/
def orElse (a b : Texts) : Texts := fun path => (a path).or (b path)

def set (a : Texts) (path : List String) (text : String) : Texts :=
  fun other => if other = path then some text else a other

theorem set_self (a : Texts) (path : List String) (text : String) :
    a.set path text path = some text := by
  simp [set]

theorem under_set_self (a : Texts) (name : String) (path : List String) (text : String) :
    (a.set (name :: path) text).under name = (a.under name).set path text := by
  funext other
  simp [under, set]

theorem under_set_of_ne (a : Texts) {name other : String} (h : other ≠ name)
    (path : List String) (text : String) :
    (a.set (name :: path) text).under other = a.under other := by
  funext rest
  simp [under, set, h]

end Texts

/-! ### Layouts -/

/-- What is known below a place: a leaf, or names with what is known below them. -/
inductive Layout
  | leaf
  | group (parts : List (String × Layout))

namespace Layout

/-- The path leads to a leaf. -/
def leads : Layout → List String → Bool
  | .leaf, path => path.isEmpty
  | .group _, [] => false
  | .group parts, name :: path =>
    match parts.lookup name with
    | some part => part.leads path
    | none => false
termination_by structural _ path => path

theorem leads_cons {parts : List (String × Layout)} {name : String} {path : List String}
    (h : (group parts).leads (name :: path) = true) :
    ∃ part, parts.lookup name = some part ∧ part.leads path = true := by
  simp only [leads] at h
  split at h
  · exact ⟨_, ‹_›, h⟩
  · cases h

theorem eq_nil_of_leads_leaf {path : List String} (h : leaf.leads path = true) : path = [] := by
  rwa [leads, List.isEmpty_iff] at h

/-- The first name of a path leads to one of the parts, and the rest goes on from there. -/
theorem exists_mem_of_leads {parts : List (String × Layout)} {path : List String}
    (h : (group parts).leads path = true) :
    ∃ name part rest, (name, part) ∈ parts ∧ path = name :: rest ∧ part.leads rest = true := by
  cases path with
  | nil => cases h
  | cons name rest =>
    obtain ⟨part, hp, hlead⟩ := leads_cons h
    obtain ⟨first, last, hparts, -⟩ := List.lookup_eq_some_iff.mp hp
    exact ⟨name, part, rest, by simp [hparts], rfl, hlead⟩

theorem leads_of_lookup {parts : List (String × Layout)} {name : String} {part : Layout}
    {path : List String} (hp : parts.lookup name = some part) (h : part.leads path = true) :
    (group parts).leads (name :: path) = true := by
  simp only [leads, hp, h]

/-- Some leaf has a text. -/
def IsGiven (s : Layout) (a : Texts) : Prop := ∃ path, s.leads path = true ∧ (a path).isSome = true

theorem isGiven_leaf {a : Texts} : leaf.IsGiven a ↔ (a []).isSome = true := by
  constructor
  · rintro ⟨path, hpath, ha⟩
    rwa [eq_nil_of_leads_leaf hpath] at ha
  · exact fun ha => ⟨[], rfl, ha⟩

theorem IsGiven.of_part {parts : List (String × Layout)} {name : String} {part : Layout}
    {a : Texts} (hp : parts.lookup name = some part) (h : part.IsGiven (a.under name)) :
    (group parts).IsGiven a := by
  obtain ⟨path, hpath, ha⟩ := h
  exact ⟨name :: path, leads_of_lookup hp hpath, ha⟩

theorem IsGiven.exists_part {parts : List (String × Layout)} {a : Texts}
    (h : (group parts).IsGiven a) :
    ∃ name part, parts.lookup name = some part ∧ part.IsGiven (a.under name) := by
  obtain ⟨path, hpath, ha⟩ := h
  cases path with
  | nil => cases hpath
  | cons name rest =>
    obtain ⟨part, hp, hlead⟩ := leads_cons hpath
    exact ⟨name, part, hp, rest, hlead, ha⟩

theorem IsGiven.orElse {s : Layout} {a : Texts} (h : s.IsGiven a) (b : Texts) :
    s.IsGiven (a.orElse b) := by
  obtain ⟨path, hpath, ha⟩ := h
  exact ⟨path, hpath, by simp [Texts.orElse, ha]⟩

theorem IsGiven.congr {s : Layout} {a b : Texts} (h : s.IsGiven a)
    (hab : ∀ path, s.leads path = true → a path = b path) : s.IsGiven b := by
  obtain ⟨path, hpath, ha⟩ := h
  exact ⟨path, hpath, by rwa [← hab path hpath]⟩

end Layout

/-! ### Trees that give texts -/

/-- A value that may be absent gives texts to the leaves of a layout, and nothing else that is
known. A group is there when one of its leaves has a text. -/
inductive Fits : Texts → Layout → Option Value → Prop
  | leaf {a : Texts} {v : Option Value} (h : v = (a []).map Value.text) : Fits a .leaf v
  | absent {a : Texts} {parts : List (String × Layout)} (h : ¬ (Layout.group parts).IsGiven a) :
      Fits a (.group parts) none
  | group {a : Texts} {parts : List (String × Layout)} {m : Mapping} (hm : m.names.Nodup)
      (hparts : ∀ name part, parts.lookup name = some part →
        Fits (a.under name) part (m.get? name))
      (h : (Layout.group parts).IsGiven a) : Fits a (.group parts) (some (.map m))

namespace Fits

variable {a b : Texts} {s : Layout} {parts : List (String × Layout)} {u v : Option Value}
  {m : Mapping}

theorem isSome_iff (h : Fits a s v) : v.isSome = true ↔ s.IsGiven a := by
  cases h with
  | leaf h => rw [h, Option.isSome_map, Layout.isGiven_leaf]
  | absent h => simpa using h
  | group _ _ h => simpa using h

theorem none_of_not_isGiven (h : ¬ s.IsGiven a) : Fits a s none := by
  cases s with
  | leaf =>
    rw [Layout.isGiven_leaf, Option.not_isSome_iff_eq_none] at h
    exact .leaf (by rw [h, Option.map_none])
  | group parts => exact .absent h

/-- Only the texts at the leaves count. -/
theorem congr (h : Fits a s v) (hab : ∀ path, s.leads path = true → a path = b path) :
    Fits b s v := by
  induction h generalizing b with
  | leaf hv => exact .leaf (hv.trans (by rw [hab [] rfl]))
  | absent h => exact .absent fun hb => h (hb.congr fun path hpath => (hab path hpath).symm)
  | group hm _ h ih =>
    refine .group hm (fun name part hp => ih name part hp fun path hpath => ?_) (h.congr hab)
    exact hab (name :: path) (Layout.leads_of_lookup hp hpath)

theorem nodup (h : Fits a (.group parts) m.given) : m.names.Nodup := by
  cases m with
  | nil => exact List.nodup_nil
  | cons e rest =>
    rw [Mapping.given_of_ne_nil (List.cons_ne_nil e rest)] at h
    cases h with
    | group hm _ _ => exact hm

/-- Laying a tree over another one gives every leaf the text of the upper tree, or of the lower
one where the upper one has none. -/
theorem above (hu : Fits a s u) (hv : Fits b s v) : Fits (a.orElse b) s (Value.above v u) := by
  -- The induction is on the upper tree; where both have a group, their parts are compared in pairs.
  induction hu generalizing b v with
  | @leaf a u hu =>
    cases hv with
    | leaf hv =>
      refine .leaf ?_
      rw [hu, hv]
      cases ha : a [] <;> simp [Texts.orElse, ha, Value.above, Value.over]
  | @absent a parts h =>
    have hab : ∀ path, (Layout.group parts).leads path = true → b path = a.orElse b path := by
      intro path hpath
      have ha : a path = none := by
        simpa using fun ha => h ⟨path, hpath, ha⟩
      simp [Texts.orElse, ha]
    exact hv.congr hab
  | @group a parts m hm hparts h ih =>
    cases hv with
    | absent hb =>
      rw [Value.above, Value.over_none]
      refine .group hm (fun name part hp => ?_) (h.orElse b)
      refine (hparts name part hp).congr fun path hpath => ?_
      have hnone : b (name :: path) = none := by
        simpa using fun hn => hb ⟨name :: path, Layout.leads_of_lookup hp hpath, hn⟩
      simp [Texts.under, Texts.orElse, hnone]
    | @group _ _ base hbase hb _ =>
      rw [Value.above, Value.over]
      refine .group (Mapping.names_over_nodup hbase m) (fun name part hp => ?_)
        (h.orElse b)
      rw [Mapping.get?_over base hm]
      exact ih name part hp (hb name part hp)

end Fits

/-! ### Texts put into a tree -/

/-- A text at the end of a path in place of a value that may be absent. -/
def Value.withText (v : Option Value) (path : List String) (text : String) : Value :=
  match path, v with
  | [], _ => .text text
  | path, some (.map m) => .map (Mapping.putAt m path (.text text))
  | path, _ => .map (Mapping.putAt [] path (.text text))

/-- Putting a text at the end of a path changes the value below the first name. -/
theorem Mapping.putAt_cons {m : Mapping} {name : String} {path : List String} {text : String}
    (h : path = [] ∨ m.get? name = none ∨ ∃ inner, m.get? name = some (.map inner)) :
    m.putAt (name :: path) (.text text) = m.set name (Value.withText (m.get? name) path text) := by
  cases path with
  | nil => rfl
  | cons next rest =>
    rcases h with h | h | ⟨inner, h⟩
    · cases h
    · simp [putAt, h, Value.withText]
    · simp [putAt, h, Value.withText]

namespace Fits

variable {a : Texts} {s : Layout} {parts : List (String × Layout)} {v : Option Value}
  {m : Mapping} {path : List String}

theorem isEmpty_or_none_or_map (h : Fits a s v) (hpath : s.leads path = true) :
    path = [] ∨ v = none ∨ ∃ inner, v = some (.map inner) := by
  cases h with
  | leaf _ => exact .inl (Layout.eq_nil_of_leads_leaf hpath)
  | absent _ => exact .inr (.inl rfl)
  | @group _ _ m _ _ _ => exact .inr (.inr ⟨m, rfl⟩)

theorem withText (h : Fits a s v) (hpath : s.leads path = true) (text : String) :
    Fits (a.set path text) s (some (Value.withText v path text)) := by
  induction path generalizing a s v with
  | nil =>
    cases s with
    | leaf => exact .leaf (by simp [Texts.set, Value.withText])
    | group parts => cases hpath
  | cons name path ih =>
    cases s with
    | leaf => cases hpath
    | group parts =>
      obtain ⟨part, hp, hlead⟩ := Layout.leads_cons hpath
      -- An absent group is filled like an empty one, so both are one case.
      have hgiven : (Layout.group parts).IsGiven (a.set (name :: path) text) :=
        ⟨name :: path, hpath, by rw [Texts.set_self]; rfl⟩
      have hput : ∀ {m : Mapping}, m.names.Nodup →
          (∀ name part, parts.lookup name = some part → Fits (a.under name) part (m.get? name)) →
          Fits (a.set (name :: path) text) (.group parts)
            (some (.map (m.putAt (name :: path) (.text text)))) := by
        intro m hm hparts
        have hfits := hparts name part hp
        rw [Mapping.putAt_cons (hfits.isEmpty_or_none_or_map hlead)]
        refine .group (Mapping.names_put_nodup hm _ _) (fun other p hother => ?_) hgiven
        by_cases ho : other = name
        · subst ho
          rw [hp] at hother
          cases hother
          rw [Mapping.get?_set, Texts.under_set_self]
          exact ih hfits hlead
        · rw [Mapping.get?_set_of_ne m ho, Texts.under_set_of_ne a ho]
          exact hparts other p hother
      cases h with
      | absent h =>
        exact hput List.nodup_nil fun other p hp => none_of_not_isGiven fun hn => h (.of_part hp hn)
      | group hm hparts _ => exact hput hm hparts

theorem given_of_some (h : Fits a (.group parts) (some (.map m))) : m.given = some (.map m) := by
  cases h with
  | group _ hparts h =>
    refine Mapping.given_of_ne_nil ?_
    rintro rfl
    obtain ⟨name, part, hp, hn⟩ := h.exists_part
    have hsome := (hparts name part hp).isSome_iff.mpr hn
    cases hsome

/-- A mapping with one more text. -/
theorem putAt (h : Fits a (.group parts) m.given) (hpath : (Layout.group parts).leads path = true)
    (text : String) :
    Fits (a.set path text) (.group parts) (m.putAt path (.text text)).given := by
  cases path with
  | nil => cases hpath
  | cons name path =>
    have hput : Fits (a.set (name :: path) text) (.group parts)
        (some (.map (m.putAt (name :: path) (.text text)))) := by
      cases m with
      | nil => exact h.withText hpath text
      | cons e rest =>
        rw [Mapping.given_of_ne_nil (List.cons_ne_nil e rest)] at h
        exact h.withText hpath text
    rwa [hput.given_of_some]

end Fits

/-! ### Mappings made of texts -/

namespace Mapping

/-- The mapping with texts at the ends of paths, later texts in place of earlier ones. -/
def ofTexts (entries : List (List String × String)) : Mapping :=
  entries.foldl (fun m e => m.putAt e.1 (.text e.2)) []

theorem ofTexts_append_singleton (entries : List (List String × String)) (path : List String)
    (text : String) :
    ofTexts (entries ++ [(path, text)]) = (ofTexts entries).putAt path (.text text) := by
  simp [ofTexts]

theorem mem_put {m : Mapping} {key value : Value} {e : Value × Value} (h : e ∈ m.put key value) :
    e.1 = key ∨ ∃ other ∈ m, other.1 = e.1 := by
  unfold put at h
  split at h
  · obtain ⟨other, hother, rfl⟩ := List.mem_map.mp h
    refine .inr ⟨other, hother, ?_⟩
    split <;> rfl
  · rcases List.mem_append.mp h with h | h
    · exact .inr ⟨e, h, rfl⟩
    · exact .inl (by rw [List.mem_singleton.mp h])

theorem mem_putAt {m : Mapping} {name : String} {path : List String} {value : Value}
    {e : Value × Value} (h : e ∈ m.putAt (name :: path) value) :
    e.1 = .text name ∨ ∃ other ∈ m, other.1 = e.1 := by
  cases path with
  | nil => exact mem_put h
  | cons next rest =>
    rw [putAt] at h
    split at h
    · exact mem_put h
    · exact mem_put h
    · exact .inr ⟨e, h, rfl⟩
    · simp

end Mapping

/-- A mapping that is made of the texts of some leaves gives each of them. -/
theorem Fits.ofTexts {a : Texts} {parts : List (String × Layout)}
    {entries : List (List String × String)}
    (hentry : ∀ e ∈ entries, (Layout.group parts).leads e.1 = true ∧ a e.1 = some e.2)
    (hall : ∀ path text, (Layout.group parts).leads path = true → a path = some text →
      path ∈ entries.map Prod.fst) :
    Fits a (.group parts) (Mapping.ofTexts entries).given := by
  have hsome : Fits (fun path => if path ∈ entries.map Prod.fst then a path else none)
      (.group parts) (Mapping.ofTexts entries).given := by
    clear hall
    induction entries using List.reverseRecOn with
    | nil =>
      refine .absent ?_
      rintro ⟨path, -, h⟩
      simp at h
    | append_singleton entries e ih =>
      obtain ⟨hlead, htext⟩ := hentry e (by simp)
      have hput := (ih fun e he => hentry e (by simp [he])).putAt hlead e.2
      rw [Mapping.ofTexts_append_singleton]
      refine hput.congr fun path _ => ?_
      by_cases hp : path = e.1
      · rw [hp, Texts.set_self, if_pos (by simp), htext]
      · rw [Texts.set, if_neg hp]
        exact if_congr (by simp [hp]) rfl rfl
  refine hsome.congr fun path hpath => ?_
  split
  · rfl
  · rename_i hn
    cases ha : a path with
    | none => rfl
    | some text => exact absurd (hall path text hpath ha) hn

end CloudCredentials
