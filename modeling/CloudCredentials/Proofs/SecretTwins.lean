import CloudCredentials.Proofs.AlikeWorlds
import CloudCredentials.Proofs.SettingsSources
import Mathlib.Data.List.Forall2

/-!
# Settings that differ in one scalar

Two values are twins along a path of names when they agree in everything but the scalar at the end
of the path, and that scalar is filled in both. Reading variables, taking the sections of a
document and laying one source over another one make twins of twins, so the settings of sources
that differ in the secret key only differ in the secret key only.
-/

namespace CloudCredentials

/-! ### Twins -/

/-- A scalar that is given: neither absent nor, as a text, blank. -/
def Value.isFilled (v : Value) : Bool :=
  match v with
  | .null | .list _ | .pair _ _ | .set _ | .map _ => false
  | v =>
    match checkText v with
    | .ok s => !Text.isBlank s
    | .error _ => true

/-- The key is a spelling of a name that is written in lower case. -/
def Value.Spells (key : Value) (name : String) : Prop := ∃ s, key = .text s ∧ Text.lower s = name

/-- Values that differ at the end of a path at most, and there in a filled scalar. -/
def Value.Twin : List String → Value → Value → Prop
  | [], v, v' => v = v' ∨ v.isFilled = true ∧ v'.isFilled = true
  | name :: path, v, v' => v = v' ∨ ∃ m m', v = .map m ∧ v' = .map m' ∧
    Fields (fun key u u' => u = u' ∨ key.Spells name ∧ Value.Twin path u u') m m'

/-- Values under a key that are the same, unless the key spells the first name of a path. -/
def Value.TwinAt (name : String) (path : List String) (key v v' : Value) : Prop :=
  v = v' ∨ key.Spells name ∧ Value.Twin path v v'

/-- Mappings with the same keys, whose values differ at the end of a path at most. -/
def Mapping.Twin (name : String) (path : List String) : Mapping → Mapping → Prop :=
  Fields (Value.TwinAt name path)

variable {name : String} {path : List String} {key v v' : Value} {m m' : Mapping}

namespace Value

theorem twin_cons : Twin (name :: path) v v' ↔
    v = v' ∨ ∃ m m', v = .map m ∧ v' = .map m' ∧ Mapping.Twin name path m m' := Iff.rfl

theorem Twin.refl (path : List String) (v : Value) : Twin path v v := by
  cases path with
  | nil => exact .inl rfl
  | cons name path => exact .inl rfl

theorem TwinAt.refl (name : String) (path : List String) (key v : Value) :
    TwinAt name path key v v := .inl rfl

theorem TwinAt.twin (h : TwinAt name path key v v') : Twin path v v' := by
  rcases h with rfl | ⟨-, h⟩
  · exact .refl path v
  · exact h

/-- Under a key that is no spelling of the name, the values are the same. -/
theorem TwinAt.eq (h : TwinAt name path key v v') (hk : ¬ key.Spells name) : v = v' :=
  h.resolve_right fun h => hk h.1

theorem spells_congr {other : Value} (h : key.sameKey other = true) :
    key.Spells name ↔ other.Spells name := by
  constructor
  · rintro ⟨s, rfl, hs⟩
    exact ⟨s, Mapping.sameKey_of_text_iff.mp h, hs⟩
  · rintro ⟨s, rfl, hs⟩
    exact ⟨s, Value.sameKey_text_iff.mp h, hs⟩

theorem TwinAt.congr {other : Value} (h : TwinAt name path key v v')
    (hk : key.Spells name → other.Spells name) : TwinAt name path other v v' := by
  rcases h with h | ⟨hs, h⟩
  · exact .inl h
  · exact .inr ⟨hk hs, h⟩

theorem isFilled_text (s : String) : (Value.text s).isFilled = !Text.isBlank s := rfl

/-- Whatever is laid over, a value that is no mapping replaces it. -/
theorem over_of_isFilled (base : Option Value) (h : v.isFilled = true) :
    Value.over base v = v := by
  cases v with
  | map entries => cases h
  | _ => rfl

theorem over_map_of_isFilled (entries : Mapping) (h : v.isFilled = true) :
    Value.over (some v) (.map entries) = .map entries := by
  cases v with
  | map below => cases h
  | _ => rfl

end Value

/-! ### Entries of twins -/

namespace Mapping

open Value (TwinAt)

theorem Twin.refl (name : String) (path : List String) (m : Mapping) : Twin name path m m :=
  Fields.refl fun _ _ => .inl rfl

theorem Twin.find? (h : Twin name path m m') (key : Value) :
    Option.Rel (TwinAt name path key) (m.find? key) (m'.find? key) := by
  induction h with
  | nil => exact .none
  | @cons e e' rest rest' he _ ih =>
    obtain ⟨k, u⟩ := e
    obtain ⟨k', u'⟩ := e'
    obtain ⟨rfl, hu⟩ : k = k' ∧ TwinAt name path k u u' := he
    by_cases hk : k.sameKey key = true
    · simpa [Mapping.find?, hk] using Option.Rel.some (hu.congr (Value.spells_congr hk).mp)
    · simpa [Mapping.find?, hk] using ih

theorem Twin.get? (h : Twin name path m m') (part : String) :
    Option.Rel (TwinAt name path (.text part)) (m.get? part) (m'.get? part) :=
  h.find? (.text part)

/-- Under a name that is not the path's, twins have the same value. -/
theorem Twin.get?_eq (h : Twin name path m m') {part : String} (hp : Text.lower part ≠ name) :
    m.get? part = m'.get? part := by
  refine eq_of_rel (rel_imp (h.get? part) fun hu => hu.eq ?_)
  rintro ⟨s, hs, hl⟩
  cases hs
  exact hp hl

theorem Twin.put (h : Twin name path m m') (hv : TwinAt name path key v v') :
    Twin name path (m.put key v) (m'.put key v') := by
  have hkeys : (m.any fun e => e.1.sameKey key) = m'.any fun e => e.1.sameKey key := by
    induction h with
    | nil => rfl
    | cons he _ ih => simp only [List.any_cons, he.1, ih]
  unfold Mapping.put
  rw [hkeys]
  split
  · refine List.rel_map ?_ h
    rintro ⟨k, u⟩ ⟨k', u'⟩ he
    obtain ⟨rfl, hu⟩ : k = k' ∧ TwinAt name path k u u' := he
    dsimp only
    split
    · rename_i hk
      exact ⟨rfl, hv.congr (Value.spells_congr hk).mpr⟩
    · exact ⟨rfl, hu⟩
  · exact List.rel_append h (.cons ⟨rfl, hv⟩ .nil)

theorem Twin.set (h : Twin name path m m') {part : String}
    (hv : TwinAt name path (.text part) v v') : Twin name path (m.set part v) (m'.set part v') :=
  h.put hv

theorem Twin.ofEntries (h : Twin name path m m') :
    Twin name path (Mapping.ofEntries m) (Mapping.ofEntries m') := by
  refine List.rel_foldl ?_ .nil h
  intro found found' hf e e' he
  dsimp only
  rw [← he.1]
  exact Twin.put hf he.2

end Mapping

/-! ### Laying twins over twins -/

namespace Value

/-- What lies under a key in two sources and is laid over one another. -/
theorem TwinAt.over {base base' : Option Value}
    (hover : ∀ {b b' : Option Value} {u u' : Value}, Option.Rel (Twin path) b b' →
      Twin path u u' → Twin path (Value.over b u) (Value.over b' u'))
    (hb : Option.Rel (TwinAt name path key) base base') (hv : TwinAt name path key v v') :
    TwinAt name path key (Value.over base v) (Value.over base' v') := by
  by_cases hk : key.Spells name
  · exact .inr ⟨hk, hover (rel_imp hb TwinAt.twin) hv.twin⟩
  · have hbase : base = base' := eq_of_rel (rel_imp hb fun h => h.eq hk)
    rw [hbase, hv.eq hk]
    exact .refl ..

end Value

theorem Mapping.Twin.over
    (hover : ∀ {b b' : Option Value} {u u' : Value}, Option.Rel (Value.Twin path) b b' →
      Value.Twin path u u' → Value.Twin path (Value.over b u) (Value.over b' u'))
    {upper upper' : Mapping} (hm : Mapping.Twin name path m m')
    (hu : Mapping.Twin name path upper upper') :
    Mapping.Twin name path (Mapping.over m upper) (Mapping.over m' upper') := by
  induction hu generalizing m m' with
  | nil => exact hm
  | @cons e e' rest rest' he _ ih =>
    obtain ⟨k, u⟩ := e
    obtain ⟨k', u'⟩ := e'
    obtain ⟨rfl, hv⟩ : k = k' ∧ Value.TwinAt name path k u u' := he
    rw [Mapping.over, Mapping.over]
    exact ih (hm.put (.over hover (hm.find? k) hv))

/-- Twins laid over twins are twins. -/
theorem Value.Twin.over {b b' : Option Value} (hb : Option.Rel (Value.Twin path) b b')
    (hv : Value.Twin path v v') : Value.Twin path (Value.over b v) (Value.over b' v') := by
  induction path generalizing b b' v v' with
  | nil =>
    rcases hv with rfl | ⟨hv, hv'⟩
    · cases v with
      | map entries =>
        cases hb with
        | none => exact .refl _ _
        | some hu =>
          rcases hu with rfl | ⟨hu, hu'⟩
          · exact .refl _ _
          · rw [over_map_of_isFilled entries hu, over_map_of_isFilled entries hu']
            exact .refl _ _
      | _ => exact .refl _ _
    · rw [over_of_isFilled b hv, over_of_isFilled b' hv']
      exact .inr ⟨hv, hv'⟩
  | cons name path ih =>
    have merged {entries entries' : Mapping} (he : Mapping.Twin name path entries entries') :
        Value.Twin (name :: path) (Value.over b (.map entries))
          (Value.over b' (.map entries')) := by
      cases hb with
      | none => exact .inr ⟨_, _, rfl, rfl, he⟩
      | @some u u' hu =>
        rcases twin_cons.mp hu with rfl | ⟨below, below', rfl, rfl, hbelow⟩
        · cases u with
          | map below =>
            exact .inr ⟨_, _, rfl, rfl, Mapping.Twin.over ih (.refl name path below) he⟩
          | _ => exact .inr ⟨_, _, rfl, rfl, he⟩
        · exact .inr ⟨_, _, rfl, rfl, Mapping.Twin.over ih hbelow he⟩
    rcases twin_cons.mp hv with rfl | ⟨entries, entries', rfl, rfl, he⟩
    · cases v with
      | map entries => exact merged (.refl name path entries)
      | _ => exact .refl _ _
    · exact merged he

/-! ### The secret key -/

def secretPart : String := "secret_key"

/-- The name of the secret key's variable, in lower case. -/
def secretVariable : String := Section.credentials.leafVariable [secretPart]

/-- Mappings of parts that differ in the secret key at most. -/
abbrev Mapping.TwinParts : Mapping → Mapping → Prop := Mapping.Twin secretPart []

/-- Mappings of sections that differ in the secret key of the credentials at most. -/
abbrev Mapping.TwinSections : Mapping → Mapping → Prop :=
  Mapping.Twin Section.credentials.name [secretPart]

/-- Values of a variable that differ in the secret key at most: the variable is the secret key's
and holds texts that are not blank, or it is the one of its section and holds twins. -/
def Variables.Twin (name : String) (t t' : Option String) : Prop :=
  t = t' ∨
  (name = secretVariable ∧ ∃ s s', t = some s ∧ t' = some s' ∧
    Text.isBlank s = false ∧ Text.isBlank s' = false) ∨
  name = Section.credentials.variableName ∧ ∃ s s', t = some s ∧ t' = some s' ∧
    Option.Rel (Value.Twin [secretPart]) (Json.read? s) (Json.read? s')

namespace Variables.Twin

variable {t t' : Option String}

theorem eq (h : Variables.Twin name t t') (hs : name ≠ secretVariable)
    (hv : name ≠ Section.credentials.variableName) : t = t' := by
  rcases h with h | ⟨h, -⟩ | ⟨h, -⟩
  · exact h
  · exact absurd h hs
  · exact absurd h hv

end Variables.Twin

/-! ### Parts -/

theorem spells_secretPart : (Value.text secretPart).Spells secretPart := ⟨_, rfl, by decide⟩

theorem Mapping.TwinParts.putAt (h : Mapping.TwinParts m m') (steps : List String) (v : Value) :
    Mapping.TwinParts (m.putAt steps v) (m'.putAt steps v) := by
  cases steps with
  | nil => exact h
  | cons part rest =>
    cases rest with
    | nil => exact h.set (.refl ..)
    | cons next rest =>
      have hg := h.get? part
      unfold Mapping.putAt
      generalize m.get? part = found at hg
      generalize m'.get? part = found' at hg
      cases hg with
      | none => exact h.set (.refl ..)
      | @some u u' hu =>
        rcases hu with rfl | ⟨-, rfl | ⟨hu, hu'⟩⟩
        · cases u with
          | map inner => exact h.set (.refl ..)
          | _ => exact h
        · cases u with
          | map inner => exact h.set (.refl ..)
          | _ => exact h
        · cases u with
          | map inner => cases hu
          | _ =>
            cases u' with
            | map inner => cases hu'
            | _ => exact h

theorem secretPart_leaf : [secretPart] ∈ Section.credentials.leaves := by decide

theorem partStart_isPrefixOf_secretVariable (s : Section) :
    s.partStart.toList.isPrefixOf secretVariable.toList = decide (s = .credentials) :=
  Section.partStart_isPrefixOf_leafVariable .credentials s [secretPart]

theorem putPart_secretVariable (m : Mapping) (s : String) :
    putPart .credentials m (secretVariable, some s) = m.set secretPart (.text s) := by
  have hprefix : Section.credentials.partStart.toList.isPrefixOf secretVariable.toList = true :=
    partStart_isPrefixOf_secretVariable .credentials
  have hsteps : stepsOf (secretVariable.toList.drop Section.credentials.partStart.toList.length) =
      [secretPart] := Section.stepsIn_leafVariable secretPart_leaf
  unfold putPart
  dsimp only
  rw [if_pos hprefix, hsteps]
  rfl

/-- A variable whose name does not continue a section's name says nothing about its parts. -/
theorem putPart_of_other {s : Section} {n : String} (m : Mapping) (t : Option String)
    (h : s.partStart.toList.isPrefixOf n.toList = false) : putPart s m (n, t) = m := by
  unfold putPart
  dsimp only
  rw [h, if_neg Bool.false_ne_true]

theorem variableName_not_part (s t : Section) :
    s.partStart.toList.isPrefixOf t.variableName.toList = false := by
  cases s <;> cases t <;> decide

theorem Mapping.TwinParts.putPart {n : String} {t t' : Option String}
    (h : Mapping.TwinParts m m') (ht : Variables.Twin n t t') :
    Mapping.TwinParts (putPart .credentials m (n, t)) (putPart .credentials m' (n, t')) := by
  rcases ht with rfl | ⟨rfl, s, s', rfl, rfl, hs, hs'⟩ | ⟨rfl, s, s', rfl, rfl, -⟩
  · unfold CloudCredentials.putPart
    dsimp only
    split
    · exact h.putAt _ _
    · exact h
  · rw [putPart_secretVariable, putPart_secretVariable]
    refine h.set (.inr ⟨spells_secretPart, .inr ⟨?_, ?_⟩⟩)
    · rw [Value.isFilled_text, hs, Bool.not_false]
    · rw [Value.isFilled_text, hs', Bool.not_false]
  · have hn := variableName_not_part .credentials .credentials
    rw [putPart_of_other m _ hn, putPart_of_other m' _ hn]
    exact h

theorem putPart_region_eq {n : String} {t t' : Option String} (m : Mapping)
    (ht : Variables.Twin n t t') : putPart .region m (n, t) = putPart .region m (n, t') := by
  rcases ht with rfl | ⟨rfl, s, s', rfl, rfl, -⟩ | ⟨rfl, s, s', rfl, rfl, -⟩
  · rfl
  · have hn := partStart_isPrefixOf_secretVariable .region
    rw [putPart_of_other m _ hn, putPart_of_other m _ hn]
  · have hn := variableName_not_part .region .credentials
    rw [putPart_of_other m _ hn, putPart_of_other m _ hn]

section Variables

variable {vars vars' : Variables} (h : Fields Variables.Twin vars vars')

include h

theorem partsOf_twin :
    Mapping.TwinParts (partsOf .credentials vars) (partsOf .credentials vars') := by
  refine List.rel_foldl ?_ .nil h
  rintro m m' hm ⟨n, t⟩ ⟨n', t'⟩ he
  obtain ⟨rfl, ht⟩ : n = n' ∧ Variables.Twin n t t' := he
  exact hm.putPart ht

theorem partsOf_region_eq : partsOf .region vars = partsOf .region vars' := by
  refine List.rel_foldl ?_ rfl h
  rintro m m' rfl ⟨n, t⟩ ⟨n', t'⟩ he
  obtain ⟨rfl, ht⟩ : n = n' ∧ Variables.Twin n t t' := he
  exact putPart_region_eq m ht

end Variables

/-! ### Sections -/

theorem spelled_twin (h : Mapping.TwinParts m m') :
    Mapping.TwinParts (spelled .credentials m) (spelled .credentials m') := by
  unfold spelled
  refine Mapping.Twin.ofEntries (List.rel_map ?_ h)
  rintro ⟨k, u⟩ ⟨k', u'⟩ he
  obtain ⟨rfl, hu⟩ : k = k' ∧ Value.TwinAt secretPart [] k u u' := he
  cases k with
  | text n =>
    dsimp only
    cases hf : Section.credentials.parts.find? (Text.lower · = Text.lower n) with
    | none => exact ⟨rfl, hu⟩
    | some part =>
      refine ⟨rfl, hu.congr ?_⟩
      rintro ⟨s, hs, hl⟩
      cases hs
      have hpart := List.find?_some hf
      exact ⟨part, rfl, (of_decide_eq_true hpart).trans hl⟩
  | _ => exact ⟨rfl, hu⟩

theorem twin_sectionMapping (h : Mapping.TwinParts m m') :
    Value.Twin [secretPart] (.map (spelled .credentials m)) (.map (spelled .credentials m')) :=
  .inr ⟨_, _, rfl, rfl, spelled_twin h⟩

theorem value?_twin {vars vars' : Variables} (h : Fields Variables.Twin vars vars') (n : String) :
    Variables.Twin n (vars.value? n) (vars'.value? n) := by
  have hl := Fields.lookup h n
  unfold Variables.value?
  generalize vars.lookup n = found at hl
  generalize vars'.lookup n = found' at hl
  cases hl with
  | none => exact .inl rfl
  | some ht => exact ht

theorem isEmpty_eq_of_twin (h : Mapping.Twin name path m m') : m.isEmpty = m'.isEmpty := by
  cases h <;> rfl

/-- The JSON in the variable of the credentials, if it is set: both variables hold twins. -/
theorem sectionVariable_twin {t t' : Option String}
    (h : Variables.Twin Section.credentials.variableName t t') :
    Option.Rel (fun s s' => Option.Rel (Value.Twin [secretPart]) (Json.read? s) (Json.read? s'))
      t t' := by
  rcases h with rfl | ⟨hn, -⟩ | ⟨-, s, s', rfl, rfl, hs⟩
  · cases t with
    | none => exact .none
    | some s =>
      refine .some ?_
      cases Json.read? s with
      | none => exact .none
      | some v => exact .some (.refl _ v)
  · exact absurd hn.symm (Section.leafVariable_ne_variableName secretPart_leaf)
  · exact .some hs

theorem sectionOf_twin (origin : String) {vars vars' : Variables}
    (h : Fields Variables.Twin vars vars') :
    Both (Option.Rel (Value.Twin [secretPart])) (sectionOf origin .credentials vars)
      (sectionOf origin .credentials vars') := by
  have hparts := partsOf_twin h
  have hvalue := sectionVariable_twin (value?_twin h Section.credentials.variableName)
  unfold sectionOf
  dsimp only
  generalize vars.value? Section.credentials.variableName = t at hvalue
  generalize vars'.value? Section.credentials.variableName = t' at hvalue
  cases hvalue with
  | none =>
    rw [isEmpty_eq_of_twin hparts]
    dsimp only
    split
    · exact .ok .none
    · exact .ok (.some (twin_sectionMapping hparts))
  | @some s s' hs =>
    dsimp only
    generalize Json.read? s = read at hs
    generalize Json.read? s' = read' at hs
    cases hs with
    | none => exact .error _
    | @some v v' hv =>
      have merged {below below' : Mapping} (hb : Mapping.TwinParts below below') :=
        twin_sectionMapping (Mapping.Twin.over Value.Twin.over hb hparts)
      rcases Value.twin_cons.mp hv with rfl | ⟨below, below', rfl, rfl, hb⟩
      · cases v with
        | null => exact .ok .none
        | map below => exact .ok (.some (merged (.refl _ _ below)))
        | _ => exact .ok (.some (.refl _ _))
      · exact .ok (.some (merged hb))

theorem sectionOf_region_eq (origin : String) {vars vars' : Variables}
    (h : Fields Variables.Twin vars vars') :
    sectionOf origin .region vars = sectionOf origin .region vars' := by
  have hvalue : vars.value? Section.region.variableName =
      vars'.value? Section.region.variableName := (value?_twin h _).eq (by decide) (by decide)
  unfold sectionOf
  rw [hvalue, partsOf_region_eq h]

theorem twinAt_section {v v' : Value} (h : Value.Twin [secretPart] v v') :
    Value.TwinAt Section.credentials.name [secretPart] (.text Section.credentials.name) v v' :=
  .inr ⟨⟨_, rfl, by decide⟩, h⟩

/-- What variables say as settings. -/
theorem settingsOf_twin (origin : String) {vars vars' : Variables}
    (h : Fields Variables.Twin vars vars') :
    Both Mapping.TwinSections (settingsOf origin vars) (settingsOf origin vars') := by
  have hsection := sectionOf_twin origin h
  have hregion := sectionOf_region_eq origin h
  unfold settingsOf Section.all
  simp only [sectionsOf, hregion]
  refine hsection.bind ?_
  intro value value' hv
  refine (Both.refl (fun m : Mapping => Mapping.Twin.refl Section.credentials.name [secretPart] m)
    _).bind ?_
  intro others others' ho
  refine .ok (List.rel_append ?_ ho)
  cases hv with
  | none => exact .nil
  | some hv => exact .cons ⟨rfl, twinAt_section hv⟩ .nil

/-- Names are taken in lower case before the variables are told apart. -/
theorem lowerNames_twin {vars vars' : Variables}
    (h : Fields (fun n => Variables.Twin (Text.lower n)) vars vars') :
    Fields Variables.Twin (Variables.lowerNames vars) (Variables.lowerNames vars') := by
  refine List.rel_foldl ?_ .nil h
  rintro found found' hf ⟨n, t⟩ ⟨n', t'⟩ he
  obtain ⟨rfl, ht⟩ : n = n' ∧ Variables.Twin (Text.lower n) t t' := he
  exact ProfileFile.putEntry_alike hf ht

theorem ofEnvironment_twin {env env' : Environment}
    (h : Fields (fun n t t' => Variables.Twin (Text.lower n) (some t) (some t')) env env') :
    Fields Variables.Twin (Variables.ofEnvironment env) (Variables.ofEnvironment env') := by
  refine lowerNames_twin (List.rel_map ?_ h)
  intro e e' he
  exact ⟨he.1, he.2⟩

/-! ### Sections of a document -/

theorem rel_getLast? {α : Type} {R : α → α → Prop} {l l' : List α} (h : List.Forall₂ R l l') :
    Option.Rel R l.getLast? l'.getLast? := by
  have hr := List.forall₂_reverse_iff.mpr h
  rw [← List.head?_reverse, ← List.head?_reverse]
  generalize l.reverse = r at hr
  generalize l'.reverse = r' at hr
  cases hr with
  | nil => exact .none
  | cons hab _ => exact .some hab

theorem last?_twin (h : Mapping.TwinSections m m') (s : Section) :
    Option.Rel (Value.TwinAt Section.credentials.name [secretPart] (.text s.name)) (s.last? m)
      (s.last? m') := by
  have hkept : List.Forall₂ (fun e e' : Value × Value => s.isNamed e.1 = true ∧
      Value.TwinAt Section.credentials.name [secretPart] e.1 e.2 e'.2)
      (m.filter fun e => s.isNamed e.1) (m'.filter fun e => s.isNamed e.1) := by
    induction h with
    | nil => exact .nil
    | @cons e e' rest rest' he _ ih =>
      rw [List.filter_cons, List.filter_cons, ← he.1]
      split
      · rename_i hn
        exact .cons ⟨hn, he.2⟩ ih
      · exact ih
  refine rel_map (rel_getLast? hkept) ?_
  rintro e e' ⟨hn, hv⟩
  refine hv.congr ?_
  rintro ⟨n, hk, hl⟩
  rw [hk] at hn
  have hs : Text.lower n = s.name := of_decide_eq_true hn
  have hname : s.name = Section.credentials.name := hs.symm.trans hl
  exact ⟨s.name, rfl, by rw [hname]; decide⟩

/-- What a document says as settings. -/
theorem sectionsIn_twin (h : Mapping.TwinSections m m') :
    Both Mapping.TwinSections (sectionsIn m) (sectionsIn m') := by
  have hnames : (m.all fun e => e.1.isName) = m'.all fun e => e.1.isName := by
    induction h with
    | nil => rfl
    | cons he _ ih => simp only [List.all_cons, he.1, ih]
  unfold sectionsIn
  rw [hnames]
  split
  · have hall : List.Forall₂ Eq Section.all Section.all := List.forall₂_refl _
    refine .ok (List.rel_filterMap ?_ hall)
    rintro s _ rfl
    refine rel_map (last?_twin h s) ?_
    intro v v' hv
    exact ⟨rfl, hv⟩
  · exact .error _

end CloudCredentials
