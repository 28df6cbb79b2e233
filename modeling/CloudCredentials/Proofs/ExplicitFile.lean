import CloudCredentials.Proofs.BackedAsk
import CloudCredentials.Proofs.FailureKinds
import CloudCredentials.Proofs.NamedFiles
import CloudCredentials.Provider.Source

/-!
# Profiles with a file of their own

A profile provider with a path checks the file of that name and hands the name on to the reader of
profile files, which expands it once more. The provider depends on that one file exactly when no
environment gives the name another meaning: a name that the reader changes can be made to denote no
file at all, while the file that was checked is there.
-/

namespace CloudCredentials

/-! ### Names that the reader changes -/

namespace Environment

/-- The environment with one value for all its variables. -/
def allTo (value : String) (env : Environment) : Environment := env.map fun v => (v.1, value)

theorem get?_allTo (env : Environment) (value name : String) :
    (env.allTo value).get? name = (env.get? name).map fun _ => value :=
  lookup_mapValues (fun _ => value) name

end Environment

namespace ProfileFile

variable {env : Environment} {value : String}

theorem reference?_suffix {cs after : List Char} {name : String}
    (h : reference? cs = some (name, after)) : after <:+ cs := by
  unfold reference? at h
  split at h
  · rename_i rest
    split at h
    · rename_i brace _ hd
      cases h
      have hafter : brace :: after <:+ rest := hd ▸ List.dropWhile_suffix _
      exact ((List.suffix_cons brace after).trans hafter).trans (List.suffix_cons _ rest)
    · cases h
  · dsimp only at h
    split at h
    · cases h
    · cases h
      exact List.dropWhile_suffix _

/-- Either no reference is replaced, or the text holds the value that all variables have. -/
theorem expandReferences_allTo (env : Environment) (value : String) (fuel : Nat)
    (cs : List Char) :
    (expandReferences env fuel cs = cs ∧ expandReferences (env.allTo value) fuel cs = cs) ∨
      value.toList <:+: expandReferences (env.allTo value) fuel cs := by
  induction fuel generalizing cs with
  | zero => exact .inl ⟨rfl, rfl⟩
  | succ fuel ih =>
    cases cs with
    | nil => exact .inl ⟨rfl, rfl⟩
    | cons c rest =>
      have kept : (c :: expandReferences env fuel rest = c :: rest ∧
          c :: expandReferences (env.allTo value) fuel rest = c :: rest) ∨
            value.toList <:+: c :: expandReferences (env.allTo value) fuel rest := by
        rcases ih rest with ⟨h, h'⟩ | h
        · exact .inl ⟨by rw [h], by rw [h']⟩
        · exact .inr (h.trans (List.suffix_cons c _).isInfix)
      unfold expandReferences
      split
      · cases hr : reference? rest with
        | none => exact kept
        | some reference =>
          obtain ⟨name, after⟩ := reference
          dsimp only
          rw [Environment.get?_allTo]
          cases env.get? name with
          | some _ => exact .inr (List.prefix_append _ _).isInfix
          | none =>
            have hrest : rest.take (rest.length - after.length) ++ after = rest := by
              obtain ⟨before, rfl⟩ := reference?_suffix hr
              simp
            rcases ih after with ⟨h, h'⟩ | h
            · dsimp only [Option.map_none]
              rw [h, h', hrest]
              exact .inl ⟨rfl, rfl⟩
            · refine .inr (h.trans ?_)
              exact ((List.suffix_append _ _).trans (List.suffix_cons c _)).isInfix
      · exact kept

theorem dropWhile_slash {cs : List Char} (h : '/' ∉ cs) :
    (cs.reverse.dropWhile (· = '/')).reverse = cs := by
  have hkept : cs.reverse.dropWhile (· = '/') = cs.reverse := by
    cases hr : cs.reverse with
    | nil => rfl
    | cons c rest =>
      have hc : c ∈ cs := List.mem_reverse.mp (hr ▸ List.mem_cons_self)
      have hne : c ≠ '/' := fun he => h (he ▸ hc)
      rw [List.dropWhile_cons_of_neg (by simpa using hne)]
  rw [hkept, List.reverse_reverse]

theorem expandTilde_of_head? {text : String} (h : text.toList.head? ≠ some '~')
    (home : Option String) : expandTilde home text = text := by
  unfold expandTilde
  split
  · rename_i ht
    rw [ht] at h
    exact absurd rfl h
  · rename_i ht
    rw [ht] at h
    exact absurd rfl h
  · rfl

theorem expandName_of_plain {text : String} (hd : '$' ∉ text.toList)
    (ht : text.toList.head? ≠ some '~') (env : Environment) : expandName env text = text := by
  simp only [expandName, expandReferences_of_not_mem _ _ _ hd, String.ofList_toList,
    expandTilde_of_head? ht]

theorem expandTilde_none (text : String) : expandTilde none text = text := by
  unfold expandTilde
  split
  · rename_i h
    cases h
  · rename_i h
    cases h
  · rfl

/-- Either a text has no tilde to expand, or it comes to hold the home directory. -/
theorem expandTilde_home (text : String) :
    (∀ home, expandTilde home text = text) ∨
      ∀ home : String, '/' ∉ home.toList →
        home.toList <:+: (expandTilde (some home) text).toList := by
  by_cases htilde : text.toList = ['~']
  · refine .inr fun home hh => ?_
    simp only [expandTilde, htilde, Path.trimSlashes, dropWhile_slash hh]
    split
    · rename_i he
      rw [List.isEmpty_iff.mp he]
      exact List.nil_infix
    · exact ⟨[], [], by simp⟩
  · by_cases hbelow : ∃ rest, text.toList = '~' :: '/' :: rest
    · obtain ⟨rest, hrest⟩ := hbelow
      refine .inr fun home hh => ?_
      simp only [expandTilde, hrest, dropWhile_slash hh, String.toList_ofList]
      exact (List.prefix_append _ _).isInfix
    · refine .inl fun home => ?_
      unfold expandTilde
      split
      · rename_i ht
        exact absurd ht htilde
      · rename_i ht
        exact absurd ⟨_, ht⟩ hbelow
      · rfl

/-- A name that is changed in some environment can come to hold any value without slashes. -/
theorem exists_expandName_infix {text : String} (h : expandName env text ≠ text)
    (hv : '/' ∉ value.toList) : ∃ env', value.toList <:+: (expandName env' text).toList := by
  refine ⟨env.allTo value, ?_⟩
  have hhome : (env.allTo value).home = env.home.map fun _ => value :=
    Environment.get?_allTo env value "HOME"
  unfold expandName at h ⊢
  dsimp only at h ⊢
  rw [hhome]
  rcases expandReferences_allTo env value (text.toList.length + 1) text.toList with
    ⟨hplain, hplain'⟩ | hin
  · -- No reference is replaced, so the tilde is what changes.
    rw [hplain, String.ofList_toList] at h
    rw [hplain', String.ofList_toList]
    rcases expandTilde_home text with hkept | hholds
    · exact absurd (hkept _) h
    · cases hh : env.home with
      | none =>
        rw [hh] at h
        exact absurd (expandTilde_none text) h
      | some _ => exact hholds value hv
  · -- The references bring the value in, and the tilde does not take it away.
    generalize expandReferences _ _ _ = cs at hin
    rw [← String.toList_ofList (l := cs)] at hin
    cases env.home with
    | none => rwa [Option.map_none, expandTilde_none]
    | some _ =>
      rcases expandTilde_home (String.ofList cs) with hkept | hholds
      · rwa [hkept]
      · exact hholds value hv

end ProfileFile

/-! ### Reading one file -/

namespace ProfileFile

/-- The keys of a profile when its file has this content. -/
def keysOfContent (file profile : String) (content : List UInt8) : Except Failure (Option Keys) :=
  match parse content with
  | some sections => keysIn credentialsOrigin profile (some sections)
  | none => .error (.profileFile file)

theorem parse_notUtf8 : parse [0xff] = none := by
  have hdecode : (Text.decodeUtf8 [0xff]).toOption = none := by decide
  rw [parse, hdecode]
  rfl

variable {w : World} {file profile : String}

theorem credentialsFileKeys_of_content {content : List UInt8}
    (h : w.files.content? (expandName w.environment file) = some content) :
    credentialsFileKeys w file profile =
      keysOfContent (expandName w.environment file) profile content := by
  unfold credentialsFileKeys readSections keysOfContent
  dsimp only
  unfold Files.content? at h
  cases hr : w.files.read (expandName w.environment file) with
  | error fault =>
    rw [hr] at h
    cases h
  | ok read =>
    rw [hr] at h
    obtain rfl : read = content := Option.some.inj h
    dsimp only
    cases parse read with
    | none => rfl
    | some sections => rfl

theorem credentialsFileKeys_of_missing
    (h : w.files.content? (expandName w.environment file) = none) :
    credentialsFileKeys w file profile = .ok none := by
  unfold credentialsFileKeys readSections
  unfold Files.content? at h
  dsimp only
  cases hr : w.files.read (expandName w.environment file) with
  | error fault => rfl
  | ok read =>
    rw [hr] at h
    cases h

theorem credentialsFileKeys_looking (shown : String) :
    credentialsFileKeys (Backed.looking shown w) file profile =
      credentialsFileKeys w file profile := by
  have henvironment : (Backed.looking shown w).environment = w.environment := rfl
  have hfiles : (Backed.looking shown w).files = w.files := rfl
  unfold credentialsFileKeys readSections
  rw [henvironment, hfiles]

theorem readSections_isWrapped (w : World) (file : String) :
    FailsOnly Failure.isWrapped (readSections w file) := by
  unfold readSections
  dsimp only
  split
  · exact failsOnly_ok _
  · split
    · exact failsOnly_ok _
    · exact (failsOnly_error _).mpr rfl

theorem keysIn_isWrapped (origin profile : String) (sections : Option Sections) :
    FailsOnly Failure.isWrapped (keysIn origin profile sections) := by
  unfold keysIn
  split
  · exact failsOnly_ok _
  · split
    · exact failsOnly_ok _
    · unfold keysOf
      split
      · exact failsOnly_ok _
      · split
        · exact (failsOnly_error _).mpr rfl
        · exact failsOnly_ok _

theorem credentialsFileKeys_isWrapped (w : World) (file profile : String) :
    FailsOnly Failure.isWrapped (credentialsFileKeys w file profile) :=
  .bind (readSections_isWrapped w file) fun _ => keysIn_isWrapped _ _ _

theorem configFileKeys_isWrapped (w : World) (file profile : String) :
    FailsOnly Failure.isWrapped (configFileKeys w file profile) :=
  .bind (readSections_isWrapped w file) fun _ => keysIn_isWrapped _ _ _

end ProfileFile

namespace NamedProfile

/-- What a provider answers with the keys that it has found. -/
def answerTo : Except Failure (Option Keys) → Except Failure Credentials
  | .error failure => .error (Backed.reportLoading name failure)
  | .ok none => .error (.notFound name .nothing)
  | .ok (some keys) => Backed.credentials name keys none

theorem ask_fresh (p : NamedProfile) (w : World) :
    (Source.ask (.profile ⟨p, none⟩) w).1 = answerTo (p.load (Backed.looking p.shown w)).1 := by
  simp only [Source.ask, Backed.ask, Backed.hold, backing, Backed.looking]
  rcases p.load _ with ⟨failure | _ | keys, v⟩
  · rfl
  · rfl
  · rfl

theorem loadFrom_of_content {p : NamedProfile} {path : Path} {w : World}
    {content : List UInt8} (h : w.files.content? path.text = some content) :
    (p.loadFrom path w).1 = ProfileFile.credentialsFileKeys w path.text p.profile := by
  unfold loadFrom
  rw [if_pos (Files.isFile_iff_content?.mpr ⟨content, h⟩)]
  rcases ProfileFile.credentialsFileKeys w path.text p.profile with failure | _ | keys
  · rfl
  · rfl
  · rfl

theorem loadFrom_of_missing {p : NamedProfile} {path : Path} {w : World}
    (h : w.files.content? path.text = none) :
    (p.loadFrom path w).1 = .error (.misuse name (.noProfileFile path.text)) := by
  unfold loadFrom
  rw [Files.isFile_eq_false_iff.mpr h]
  rfl

theorem answerTo_keys_ne_missing (w : World) (file profile path : String) :
    answerTo (ProfileFile.credentialsFileKeys w file profile) ≠
      .error (.misuse name (.noProfileFile path)) := by
  cases hk : ProfileFile.credentialsFileKeys w file profile with
  | error failure =>
    have hw : failure.isWrapped = true :=
      ProfileFile.credentialsFileKeys_isWrapped w file profile failure hk
    simp [answerTo, Backed.reportLoading, hw]
  | ok found =>
    cases found with
    | none => simp [answerTo]
    | some keys =>
      dsimp only [answerTo, Backed.credentials]
      split <;> simp

variable {p : NamedProfile} {path : Path}

theorem ask_of_missing (h : p.path = some path) {w : World}
    (hm : w.files.content? path.text = none) :
    (Source.ask (.profile ⟨p, none⟩) w).1 = .error (.misuse name (.noProfileFile path.text)) := by
  have hload : (p.load (Backed.looking p.shown w)).1 =
      .error (.misuse name (.noProfileFile path.text)) := by
    unfold load
    rw [h]
    exact loadFrom_of_missing hm
  rw [ask_fresh, hload]
  rfl

theorem ask_of_content (h : p.path = some path) {w : World} {content : List UInt8}
    (hc : w.files.content? path.text = some content) :
    (Source.ask (.profile ⟨p, none⟩) w).1 =
      answerTo (ProfileFile.credentialsFileKeys w path.text p.profile) := by
  have hload : (p.load (Backed.looking p.shown w)).1 =
      ProfileFile.credentialsFileKeys (Backed.looking p.shown w) path.text p.profile := by
    unfold load
    rw [h]
    exact loadFrom_of_content hc
  rw [ask_fresh, hload, ProfileFile.credentialsFileKeys_looking]

theorem ask_of_unchanged (h : p.path = some path) {w : World} {content : List UInt8}
    (hn : ProfileFile.expandName w.environment path.text = path.text)
    (hc : w.files.content? path.text = some content) :
    (Source.ask (.profile ⟨p, none⟩) w).1 =
      answerTo (ProfileFile.keysOfContent path.text p.profile content) := by
  have hread : w.files.content? (ProfileFile.expandName w.environment path.text) = some content :=
    hn.symm ▸ hc
  rw [ask_of_content h hc, ProfileFile.credentialsFileKeys_of_content hread, hn]

theorem ask_missing_iff (h : p.path = some path) (w : World) :
    (Source.ask (.profile ⟨p, none⟩) w).1 = .error (.misuse name (.noProfileFile path.text)) ↔
      w.files.isFile path.text = false := by
  rw [Files.isFile_eq_false_iff]
  cases hc : w.files.content? path.text with
  | none => exact iff_of_true (ask_of_missing h hc) rfl
  | some content =>
    rw [ask_of_content h hc]
    refine iff_of_false (answerTo_keys_ne_missing _ _ _ _) fun hnone => ?_
    cases hnone

end NamedProfile

/-! ### Reading that file only -/

/-- The source reads a profile in one file only: its answer is what the content of the file makes
it, and worlds with the same home directory that agree on this file get the same answer. -/
structure Source.ReadsOnly (s : Source) (file profile : String) : Prop where
  content : ∀ w content, w.files.content? file = some content →
    (s.ask w).1 = NamedProfile.answerTo (ProfileFile.keysOfContent file profile content)
  agree : ∀ w w' : World, w'.environment.home = w.environment.home →
    w'.files.content? file = w.files.content? file → (s.ask w').1 = (s.ask w).1

namespace NamedProfile

variable {p : NamedProfile} {path : Path} (h : p.path = some path)

include h

theorem readsOnly_of_unchanged
    (hn : ∀ environment, ProfileFile.expandName environment path.text = path.text) :
    (Source.profile ⟨p, none⟩).ReadsOnly path.text p.profile where
  content _ _ hc := ask_of_unchanged h (hn _) hc
  agree w w' _ hfiles := by
    cases hc : w.files.content? path.text with
    | none => rw [ask_of_missing h hc, ask_of_missing h (hfiles.trans hc)]
    | some content =>
      rw [ask_of_unchanged h (hn _) hc, ask_of_unchanged h (hn _) (hfiles.trans hc)]

theorem readsOnly_of_no_file (hn : ∀ files : Files, files.content? path.text = none) :
    (Source.profile ⟨p, none⟩).ReadsOnly path.text p.profile where
  content _ _ hc := by
    rw [hn] at hc
    cases hc
  agree _ _ _ _ := by rw [ask_of_missing h (hn _), ask_of_missing h (hn _)]

/-- With a file of that name that is no profile file, a name that the reader changes leads past
it. -/
theorem not_readsOnly {environment : Environment} {files : Files} {content : List UInt8}
    (hn : ProfileFile.expandName environment path.text ≠ path.text)
    (hc : files.content? path.text = some content) :
    ¬ (Source.profile ⟨p, none⟩).ReadsOnly path.text p.profile := by
  intro hreads
  have hslash : '/' ∉ (String.ofList files.overlong).toList := by
    rw [String.toList_ofList]
    exact fun hm => absurd (Files.mem_overlong.mp hm) (by decide)
  obtain ⟨changed, hin⟩ := ProfileFile.exists_expandName_infix hn hslash
  rw [String.toList_ofList] at hin
  obtain ⟨w, henvironment, hfiles⟩ :
      ∃ w : World, w.environment = changed ∧ w.files = files.filled [0xff] :=
    ⟨{ environment := changed, files := files.filled [0xff] }, rfl, rfl⟩
  have hthere : w.files.content? path.text = some [0xff] := by
    rw [hfiles, Files.content?_filled, hc, Option.map_some]
  have hgone : w.files.content? (ProfileFile.expandName w.environment path.text) = none := by
    rw [hfiles, henvironment, Files.content?_filled, Files.content?_of_overlong hin,
      Option.map_none]
  have hanswer := hreads.content w [0xff] hthere
  rw [ask_of_content h hthere, ProfileFile.credentialsFileKeys_of_missing hgone,
    ProfileFile.keysOfContent, ProfileFile.parse_notUtf8] at hanswer
  cases hanswer

end NamedProfile

/-- A profile file with a pair of keys for one profile. -/
def NamedProfile.devFile (accessKey secretKey : String) : List UInt8 :=
  asciiBytes ("[dev]\naws_access_key_id = " ++ accessKey ++
    "\naws_secret_access_key = " ++ secretKey)

/-- Two files, one with the name of a variable and one with the name that this variable has as its
value. -/
def dollarWorld (environment : Environment) : World where
  environment
  files := [(["$X"], .file (NamedProfile.devFile "AKIAOWN" "own-secret")),
    (["other"], .file (NamedProfile.devFile "AKIAOTHER" "other-secret"))]

end CloudCredentials
