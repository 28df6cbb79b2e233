import CloudCredentials.Proofs.DescribedTrees
import CloudCredentials.Proofs.NormalPaths
import CloudCredentials.Proofs.QuotedForms

/-!
# What is shown of a source

What is shown of a source that was given its access key as a text and its paths in normal form
tells the kind of the source and all that it was given, secrets aside. There is one exception. A
profile that is looked up in the default files is shown like one that is looked up in a file with
the name `default`.
-/

namespace CloudCredentials

/-! ### Files and places in descriptions -/

/-- A file that is given as a path is given in normal form. -/
def FileName.IsNormal : FileName → Prop
  | .text _ => True
  | .path p => p.IsNormal

theorem FileName.literal_append_inj {f g : FileName} (hf : f.IsNormal) (hg : g.IsNormal)
    {x y : String} (h : f.literal ++ x = g.literal ++ y) : f = g ∧ x = y := by
  cases f with
  | text s =>
    cases g with
    | text t =>
      obtain ⟨rfl, hxy⟩ := Text.quoted_append_inj h
      exact ⟨rfl, hxy⟩
    | path q =>
      simp only [literal, String.append_assoc] at h
      exact absurd h (Text.quoted_ne_append rfl (by decide))
  | path p =>
    simp only [literal, String.append_assoc] at h
    cases g with
    | text t => exact absurd h.symm (Text.quoted_ne_append rfl (by decide))
    | path q =>
      simp only [String.append_assoc] at h
      obtain ⟨htext, hrest⟩ := Text.quoted_append_inj ((String.append_right_inj _).mp h)
      exact ⟨congrArg FileName.path (hf.eq_of_text hg htext), (String.append_right_inj _).mp hrest⟩

theorem FileName.literal_ne_none (f : FileName) {x y : String} :
    f.literal ++ x ≠ "None" ++ y := by
  cases f with
  | text s =>
    exact Text.quoted_ne_append rfl (by decide)
  | path p =>
    intro h
    have hfirst := congrArg (fun s => s.toList.head?) h
    simp only [literal, String.toList_append, List.append_assoc] at hfirst
    cases hfirst

namespace WebIdentity

theorem tokenFile_append_inj {f g : Option FileName} (hf : ∀ file ∈ f, file.IsNormal)
    (hg : ∀ file ∈ g, file.IsNormal) {x y : String}
    (h : (f.map FileName.literal).getD "None" ++ x = (g.map FileName.literal).getD "None" ++ y) :
    f = g ∧ x = y := by
  cases f with
  | none =>
    cases g with
    | none => exact ⟨rfl, (String.append_right_inj _).mp h⟩
    | some g => exact absurd h.symm g.literal_ne_none
  | some f =>
    cases g with
    | none => exact absurd h f.literal_ne_none
    | some g =>
      obtain ⟨rfl, hxy⟩ := FileName.literal_append_inj (hf f rfl) (hg g rfl) h
      exact ⟨rfl, hxy⟩

theorem boolText_append_inj {b c : Bool} {x y : String} (h : boolText b ++ x = boolText c ++ y) :
    b = c := by
  have hfirst := congrArg (fun s => s.toList.head?) h
  simp only [String.toList_append] at hfirst
  cases b with
  | false =>
    cases c with
    | false => rfl
    | true => cases hfirst
  | true =>
    cases c with
    | false => cases hfirst
    | true => rfl

theorem shown_eq_iff {p q : WebIdentity} (hp : ∀ file ∈ p.tokenFile, file.IsNormal)
    (hq : ∀ file ∈ q.tokenFile, file.IsNormal) :
    p.shown = q.shown ↔ p.role = q.role ∧ p.tokenFile = q.tokenFile ∧ p.session = q.session ∧
      p.asyncUpdate = q.asyncUpdate := by
  constructor
  · intro h
    simp only [shown, String.append_assoc] at h
    have h := (String.append_right_inj _).mp ((String.append_right_inj _).mp h)
    obtain ⟨hrole, h⟩ := Text.quotedOption_append_inj h
    obtain ⟨hfile, h⟩ := tokenFile_append_inj hp hq ((String.append_right_inj _).mp h)
    obtain ⟨hsession, h⟩ := Text.quotedOption_append_inj ((String.append_right_inj _).mp h)
    exact ⟨hrole, hfile, hsession, boolText_append_inj ((String.append_right_inj _).mp h)⟩
  · rintro ⟨hrole, hfile, hsession, hupdate⟩
    simp only [shown, hrole, hfile, hsession, hupdate]

end WebIdentity

namespace NamedProfile

/-- The file whose name is the word for the default files. -/
def namesake : Path := Path.ofText "default"

/-- One of the places stands for the default files, and the other one is the file that is named
like them. -/
def Misread (place place' : Option Path) : Prop :=
  (place = none ∧ place' = some namesake) ∨ (place = some namesake ∧ place' = none)

theorem not_misread_self (place : Option Path) : ¬ Misread place place := by
  rintro (⟨hnone, hnamed⟩ | ⟨hnamed, hnone⟩)
  · cases hnone.symm.trans hnamed
  · cases hnone.symm.trans hnamed

/-- The places are the same, or are taken for each other. -/
def LooksSame (place place' : Option Path) : Prop := place = place' ∨ Misread place place'

theorem location_eq_iff {p q : NamedProfile} (hp : ∀ path ∈ p.path, path.IsNormal)
    (hq : ∀ path ∈ q.path, path.IsNormal) : p.location = q.location ↔ LooksSame p.path q.path := by
  have named : namesake.IsNormal := Path.isNormal_ofText _
  have word : namesake.text = "default" := by decide
  unfold location
  constructor
  · intro h
    cases hpath : p.path with
    | none =>
      cases hpath' : q.path with
      | none => exact .inl rfl
      | some path' =>
        rw [hpath, hpath'] at h
        have h : "default" = path'.text := h
        have hname := named.eq_of_text (hq path' hpath') (word.trans h)
        exact .inr (.inl ⟨rfl, congrArg some hname.symm⟩)
    | some path =>
      cases hpath' : q.path with
      | none =>
        rw [hpath, hpath'] at h
        have h : path.text = "default" := h
        have hname := (hp path hpath).eq_of_text named (h.trans word.symm)
        exact .inr (.inr ⟨congrArg some hname, rfl⟩)
      | some path' =>
        rw [hpath, hpath'] at h
        have h : path.text = path'.text := h
        exact .inl (congrArg some ((hp path hpath).eq_of_text (hq path' hpath') h))
  · rintro (h | ⟨hnone, hnamed⟩ | ⟨hnamed, hnone⟩)
    · rw [h]
    · rw [hnone, hnamed]
      exact word.symm
    · rw [hnone, hnamed]
      exact word

theorem shown_eq_iff {p q : NamedProfile} (hp : ∀ path ∈ p.path, path.IsNormal)
    (hq : ∀ path ∈ q.path, path.IsNormal) :
    p.shown = q.shown ↔ p.profile = q.profile ∧ LooksSame p.path q.path := by
  rw [← location_eq_iff hp hq]
  constructor
  · intro h
    simp only [shown, String.append_assoc] at h
    have h := (String.append_right_inj _).mp ((String.append_right_inj _).mp h)
    obtain ⟨hname, h⟩ := Text.quoted_append_inj h
    exact ⟨hname, (Text.quoted_append_inj ((String.append_right_inj _).mp h)).1⟩
  · rintro ⟨hname, hlocation⟩
    simp only [shown, hname, hlocation]

end NamedProfile

/-! ### Sources -/

namespace Source

/-- The sources are of one kind and were given the same, secrets and clients aside. The places of
profiles are compared by a relation. -/
inductive Matches (P : Option Path → Option Path → Prop) : Source → Source → Prop
  | fixed {keys keys' : Keys} (accessKey : keys.accessKey = keys'.accessKey) :
    Matches P (.fixed keys) (.fixed keys')
  | instanceProfile (state state' : Backed Unit Lease) :
    Matches P (.instanceProfile state) (.instanceProfile state')
  | profile {state state' : Backed NamedProfile Keys}
    (name : state.parameters.profile = state'.parameters.profile)
    (place : P state.parameters.path state'.parameters.path) :
    Matches P (.profile state) (.profile state')
  | webIdentity {state state' : Backed WebIdentity AssumedRole} (refresher refresher' : Refresher)
    (role : state.parameters.role = state'.parameters.role)
    (tokenFile : state.parameters.tokenFile = state'.parameters.tokenFile)
    (session : state.parameters.session = state'.parameters.session)
    (asyncUpdate : state.parameters.asyncUpdate = state'.parameters.asyncUpdate) :
    Matches P (.webIdentity state refresher) (.webIdentity state' refresher')
  | standard (state state' : Backed ActiveProfile StandardKeys) :
    Matches P (.standard state) (.standard state')

variable {P Q : Option Path → Option Path → Prop} {s s' : Source}

theorem Matches.name (h : s.Matches P s') : s.name = s'.name := by
  cases h <;> rfl

/-- The place that a profile is looked up in. -/
def place? : Source → Option (Option Path)
  | .profile state => some state.parameters.path
  | _ => none

theorem Matches.imp_places (h : s.Matches P s')
    (hPQ : ∀ place ∈ s.place?, ∀ place' ∈ s'.place?, P place place' → Q place place') :
    s.Matches Q s' := by
  cases h with
  | fixed accessKey => exact .fixed accessKey
  | instanceProfile state state' => exact .instanceProfile state state'
  | profile name place => exact .profile name (hPQ _ rfl _ rfl place)
  | webIdentity refresher refresher' role tokenFile session asyncUpdate =>
    exact .webIdentity refresher refresher' role tokenFile session asyncUpdate
  | standard state state' => exact .standard state state'

theorem Matches.place?_eq (h : s.Matches Eq s') : s.place? = s'.place? := by
  cases h with
  | profile name place => exact congrArg some place
  | _ => rfl

theorem name_of_place? {place : Option Path} (h : s.place? = some place) :
    s.name = NamedProfile.name := by
  cases s with
  | profile state => rfl
  | _ => cases h

/-- The source was given its access key as a text, and its paths in normal form. -/
def IsPlain : Source → Prop
  | .fixed keys => ∃ s, keys.accessKey = .text s
  | .profile state => ∀ path ∈ state.parameters.path, path.IsNormal
  | .webIdentity state _ => ∀ file ∈ state.parameters.tokenFile, file.IsNormal
  | .instanceProfile _ | .standard _ => True
  | .scripted .. => False

theorem IsPlain.isOwn {s : Source} (h : s.IsPlain) : s.IsOwn := by
  cases s with
  | scripted name answers => exact h
  | _ => trivial

def kindNames : List String :=
  [fixedName, InstanceProfile.name, NamedProfile.name, WebIdentity.name, Standard.name]

theorem IsPlain.kindName_mem {s : Source} (h : s.IsPlain) : s.kindName ∈ kindNames := by
  cases s with
  | scripted name answers => exact h.elim
  | _ => simp [kindName, name, kindNames]

/-- Three characters tell the kind of what is shown. -/
theorem IsPlain.shown_start {s : Source} (h : s.IsPlain) :
    s.shown.toList.take 3 = s.kindName.toList.take 3 := by
  have long : ∀ name ∈ kindNames, 3 ≤ name.toList.length := by decide
  obtain ⟨details, hd⟩ := shown_kindName h.isOwn
  rw [hd, String.toList_append, List.take_append_of_le_length (long _ h.kindName_mem)]

theorem kindName_eq_of_shown {s s' : Source} (hs : s.IsPlain) (hs' : s'.IsPlain)
    (h : s.shown = s'.shown) : s.kindName = s'.kindName := by
  have told : ∀ name ∈ kindNames, ∀ name' ∈ kindNames,
      name.toList.take 3 = name'.toList.take 3 → name = name' := by decide
  refine told _ hs.kindName_mem _ hs'.kindName_mem ?_
  rw [← hs.shown_start, ← hs'.shown_start, h]

theorem IsPlain.isSourceTitle {s : Source} (h : s.IsPlain) : Tree.IsSourceTitle s.shown := by
  have starts : ∀ name ∈ kindNames, (name.toList.take 3).head? ≠ some ' ' ∧
      name.toList.take 3 ≠ Failure.chainName.toList.take 3 := by decide
  obtain ⟨hspace, hchain⟩ := starts _ h.kindName_mem
  rw [← h.shown_start] at hspace hchain
  refine ⟨?_, fun hname => hchain (congrArg (fun s => s.toList.take 3) hname)⟩
  rwa [List.head?_take, if_neg (by decide)] at hspace

/-- What is shown of two sources is the same exactly when they match; only the default place of a
profile is not told from its namesake. -/
theorem shown_eq_iff {s s' : Source} (hs : s.IsPlain) (hs' : s'.IsPlain) :
    s.shown = s'.shown ↔ s.Matches NamedProfile.LooksSame s' := by
  constructor
  · intro h
    have hkind := kindName_eq_of_shown hs hs' h
    cases s with
    | fixed keys =>
      cases s' with
      | fixed keys' =>
        obtain ⟨a, ha⟩ := hs
        obtain ⟨a', ha'⟩ := hs'
        simp only [shown, ha, ha', Datum.literal, String.append_assoc] at h
        have h := (String.append_right_inj _).mp ((String.append_right_inj _).mp h)
        obtain ⟨rfl, -⟩ := Text.quoted_append_inj h
        exact .fixed (ha.trans ha'.symm)
      | _ => simp +decide [kindName, name] at hkind
    | instanceProfile state =>
      cases s' with
      | instanceProfile state' => exact .instanceProfile state state'
      | _ => simp +decide [kindName, name] at hkind
    | profile state =>
      cases s' with
      | profile state' =>
        obtain ⟨hname, hplace⟩ := (NamedProfile.shown_eq_iff hs hs').mp h
        exact .profile hname hplace
      | _ => simp +decide [kindName, name] at hkind
    | webIdentity state refresher =>
      cases s' with
      | webIdentity state' refresher' =>
        obtain ⟨hrole, hfile, hsession, hupdate⟩ := (WebIdentity.shown_eq_iff hs hs').mp h
        exact .webIdentity refresher refresher' hrole hfile hsession hupdate
      | _ => simp +decide [kindName, name] at hkind
    | standard state =>
      cases s' with
      | standard state' => exact .standard state state'
      | _ => simp +decide [kindName, name] at hkind
    | scripted name answers => exact hs.elim
  · intro h
    cases h with
    | fixed accessKey => simp only [shown, accessKey]
    | instanceProfile state state' => rfl
    | profile name place => exact (NamedProfile.shown_eq_iff hs hs').mpr ⟨name, place⟩
    | webIdentity refresher refresher' role tokenFile session asyncUpdate =>
      exact (WebIdentity.shown_eq_iff hs hs').mpr ⟨role, tokenFile, session, asyncUpdate⟩
    | standard state state' => rfl

end Source

end CloudCredentials
