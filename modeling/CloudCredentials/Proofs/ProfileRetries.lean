import CloudCredentials.Proofs.ExplicitFile
import CloudCredentials.Proofs.ProviderRun

/-!
# Looking for a profile again

A profile provider that has found no keys is what it was when it was made, and looks again. The
first keys that it finds are kept for good, and they are kept before they are checked: a pair with
an empty part is reported as incomplete, and from then on nothing else is.
-/

namespace CloudCredentials

/-! ### Answers -/

/-- The answer shows that keys were found, whether they could be used or not. -/
def NamedProfile.isFound : Except Failure Credentials → Bool
  | .ok _ => true
  | .error (.notFound _ .incomplete) => true
  | .error _ => false

/-- The failure is another one than a pair of keys with an empty part. -/
def Failure.isNoPair : Failure → Bool
  | .notFound _ .incomplete => false
  | _ => true

theorem Failure.isNoPair_of_isWrapped {f : Failure} (h : f.isWrapped = true) :
    f.isNoPair = true := by
  cases f with
  | notFound provider reason => cases h
  | _ => rfl

namespace NamedProfile

theorem isFound_of_isOk {answer : Except Failure Credentials} (h : answer.isOk = true) :
    isFound answer = true := by
  cases answer with
  | ok c => rfl
  | error failure => cases h

theorem isFound_error {failure : Failure} (h : failure.isNoPair = true) :
    isFound (.error failure) = false := by
  cases failure with
  | notFound provider reason =>
    cases reason with
    | incomplete => cases h
    | _ => rfl
  | _ => rfl

/-- What a provider answers that has kept keys. -/
def kept (keys : Keys) : Except Failure Credentials := Backed.credentials name keys none

theorem kept_cases (keys : Keys) :
    (∃ c, kept keys = .ok c) ∨ kept keys = .error (.notFound name .incomplete) := by
  unfold kept Backed.credentials
  split
  · exact .inl ⟨_, rfl⟩
  · exact .inr rfl

theorem isFound_kept (keys : Keys) : isFound (kept keys) = true := by
  rcases kept_cases keys with ⟨c, h⟩ | h
  · rw [h]
    rfl
  · rw [h]
    rfl

/-! ### Asking -/

theorem load_isNoPair (p : NamedProfile) (w : World) :
    FailsOnly Failure.isNoPair (p.load w).1 := by
  have credentials (file profile : String) {failure : Failure}
      (h : ProfileFile.credentialsFileKeys w file profile = .error failure) :
      failure.isNoPair = true :=
    Failure.isNoPair_of_isWrapped (ProfileFile.credentialsFileKeys_isWrapped w file profile _ h)
  have config (file profile : String) {failure : Failure}
      (h : ProfileFile.configFileKeys w file profile = .error failure) :
      failure.isNoPair = true :=
    Failure.isNoPair_of_isWrapped (ProfileFile.configFileKeys_isWrapped w file profile _ h)
  unfold load
  split
  · unfold loadFrom
    split
    · split
      · exact (failsOnly_error _).mpr (credentials _ _ ‹_›)
      · exact failsOnly_ok _
      · exact failsOnly_ok _
    · exact (failsOnly_error _).mpr rfl
  · unfold loadDefault
    split
    · split
      · exact (failsOnly_error _).mpr (credentials _ _ ‹_›)
      · exact failsOnly_ok _
      · split
        · exact (failsOnly_error _).mpr (config _ _ ‹_›)
        · exact failsOnly_ok _
        · exact failsOnly_ok _
    · exact (failsOnly_error _).mpr rfl

theorem ask_held (p : NamedProfile) (keys : Keys) (w : World) :
    Source.ask (.profile ⟨p, some keys⟩) w = (kept keys, .profile ⟨p, some keys⟩, w) := rfl

/-- A provider without keys stays as it is, or finds keys and keeps them. -/
theorem ask_searching (p : NamedProfile) (w : World) :
    (isFound (Source.ask (.profile ⟨p, none⟩) w).1 = false ∧
        (Source.ask (.profile ⟨p, none⟩) w).2.1 = .profile ⟨p, none⟩) ∨
      ∃ keys, (Source.ask (.profile ⟨p, none⟩) w).1 = kept keys ∧
        (Source.ask (.profile ⟨p, none⟩) w).2.1 = .profile ⟨p, some keys⟩ := by
  have hload := load_isNoPair p (Backed.looking p.shown w)
  simp only [Source.ask, Backed.ask, Backed.hold, backing, Backed.looking] at hload ⊢
  generalize p.load _ = r at hload ⊢
  rcases r with ⟨failure | _ | keys, v⟩
  · have hf : failure.isNoPair = true := (failsOnly_error failure).mp hload
    refine .inl ⟨isFound_error ?_, rfl⟩
    unfold Backed.reportLoading
    split
    · rfl
    · exact hf
  · exact .inl ⟨rfl, rfl⟩
  · exact .inr ⟨keys, rfl, rfl⟩

end NamedProfile

/-! ### Runs -/

theorem Provider.answers_cons_append (e : Event) (rest : List Event) (s : Provider × World) :
    answers (e :: rest) s = answers [e] s ++ answers rest (step e s) := by
  cases e <;> rfl

namespace NamedProfile

/-- A provider after its answers: nothing was found yet, or it has kept the keys that were found
first, and answered with them ever since. -/
inductive Looked (p : NamedProfile) (history : List (Except Failure Credentials)) :
    Backed NamedProfile Keys → Prop
  | searching (h : history.find? isFound = none) : Looked p history ⟨p, none⟩
  | found {keys : Keys} (h : history.find? isFound = some (kept keys))
    (all : ∀ answer ∈ history, isFound answer = true → answer = kept keys) :
    Looked p history ⟨p, some keys⟩

variable {p : NamedProfile} {history : List (Except Failure Credentials)}
  {state : Backed NamedProfile Keys}

theorem Looked.ask (h : Looked p history state) (w : World) :
    ∃ state', (Source.ask (.profile state) w).2.1 = .profile state' ∧
      Looked p (history ++ [(Source.ask (.profile state) w).1]) state' := by
  cases h with
  | searching hnone =>
    rcases ask_searching p w with ⟨ha, hs⟩ | ⟨keys, ha, hs⟩
    · refine ⟨_, hs, .searching ?_⟩
      rw [List.find?_append, hnone, Option.none_or, List.find?_cons, ha, List.find?_nil]
    · refine ⟨_, hs, .found ?_ fun answer hm hf => ?_⟩
      · rw [List.find?_append, hnone, Option.none_or, List.find?_cons, ha, isFound_kept]
      · rcases List.mem_append.mp hm with hm | hm
        · exact absurd hf (List.find?_eq_none.mp hnone answer hm)
        · rw [List.mem_singleton.mp hm, ha]
  | @found keys hfirst hall =>
    refine ⟨⟨p, some keys⟩, rfl, .found ?_ fun answer hm hf => ?_⟩
    · rw [List.find?_append, hfirst, Option.some_or]
    · rcases List.mem_append.mp hm with hm | hm
      · exact hall answer hm hf
      · exact List.mem_singleton.mp hm

theorem Looked.step (h : Looked p history state) (e : Event) (w : World) :
    ∃ state', (Provider.step e (.leaf (.profile state), w)).1 = .leaf (.profile state') ∧
      Looked p (history ++ Provider.answers [e] (.leaf (.profile state), w)) state' := by
  have unasked {answers : List (Except Failure Credentials)} (ha : answers = []) :
      Looked p (history ++ answers) state := by
    rw [ha, List.append_nil]
    exact h
  cases e with
  | resolve =>
    obtain ⟨state', hs, hl⟩ := h.ask w
    exact ⟨state', congrArg Tree.leaf hs, hl⟩
  | tick place =>
    refine ⟨state, ?_, unasked rfl⟩
    cases place with
    | zero => rfl
    | succ place => rfl
  | _ => exact ⟨state, rfl, unasked rfl⟩

theorem Looked.run (h : Looked p history state) (events : List Event) (w : World) :
    ∃ state', (Provider.run events (.leaf (.profile state), w)).1 = .leaf (.profile state') ∧
      Looked p (history ++ Provider.answers events (.leaf (.profile state), w)) state' := by
  induction events generalizing history state w with
  | nil => exact ⟨state, rfl, by rwa [Provider.answers, List.append_nil]⟩
  | cons e rest ih =>
    obtain ⟨state', hs, hl⟩ := h.step e w
    have hstep : Provider.step e (.leaf (.profile state), w) =
        (.leaf (.profile state'), (Provider.step e (.leaf (.profile state), w)).2) :=
      Prod.ext hs rfl
    rw [Provider.run_cons, Provider.answers_cons_append, ← List.append_assoc, hstep]
    exact ih hl _

/-- The next answer, after the answers that have led to a state. -/
theorem Looked.next (h : Looked p history state) (w : World) :
    (Source.ask (.profile state) w).1 =
      (history.find? isFound).getD (Source.ask (.profile ⟨p, none⟩) w).1 := by
  cases h with
  | searching hnone => rw [hnone, Option.getD_none]
  | found hfirst _ => rw [hfirst, Option.getD_some, ask_held]

/-- To keep the first success only is the same, unless incomplete keys were found and would not be
found now. -/
theorem Looked.next_iff (h : Looked p history state) (w : World) :
    (Source.ask (.profile state) w).1 =
        (history.find? (·.isOk)).getD (Source.ask (.profile ⟨p, none⟩) w).1 ↔
      (Except.error (.notFound name .incomplete) ∈ history →
        (Source.ask (.profile ⟨p, none⟩) w).1 = .error (.notFound name .incomplete)) := by
  cases h with
  | searching hnone =>
    have hnever : ∀ answer ∈ history, ¬ isFound answer = true := List.find?_eq_none.mp hnone
    have hok : history.find? (·.isOk) = none :=
      List.find?_eq_none.mpr fun answer hm hok => hnever answer hm (isFound_of_isOk hok)
    rw [hok, Option.getD_none]
    exact iff_of_true rfl fun hm => absurd rfl (hnever _ hm)
  | @found keys hfirst hall =>
    have hmem : kept keys ∈ history := List.mem_of_find?_eq_some hfirst
    rw [ask_held]
    rcases kept_cases keys with ⟨c, hc⟩ | hc
    · have hok : history.find? (·.isOk) = some (kept keys) := by
        cases hf : history.find? (·.isOk) with
        | none =>
          have hno := List.find?_eq_none.mp hf _ hmem
          rw [hc] at hno
          exact absurd rfl hno
        | some answer =>
          have ha : answer.isOk = true := List.find?_some hf
          rw [hall answer (List.mem_of_find?_eq_some hf) (isFound_of_isOk ha)]
      rw [hok, Option.getD_some]
      refine iff_of_true rfl fun hm => ?_
      have hsame := hall _ hm rfl
      rw [hc] at hsame
      cases hsame
    · have hok : history.find? (·.isOk) = none := by
        refine List.find?_eq_none.mpr fun answer hm ha => ?_
        rw [hall answer hm (isFound_of_isOk ha), hc] at ha
        cases ha
      rw [hok, Option.getD_none, hc]
      rw [hc] at hmem
      exact ⟨fun h _ => h.symm, fun h => (h hmem).symm⟩

end NamedProfile

/-! ### Providers as they are made -/

/-- Only a path that starts at a home directory is made with it. -/
theorem NamedProfile.make_of_not_startsAtHome {file : Option FileName}
    (h : ∀ path ∈ file.bind FileName.path?, path.startsAtHome = false) (profile : String)
    (home home' : Option String) : make home' profile file = make home profile file := by
  unfold make
  split
  · rfl
  · split
    · rfl
    · rename_i path hp
      rw [Path.expandHome_of_not_startsAtHome home' (h path hp),
        Path.expandHome_of_not_startsAtHome home (h path hp)]

theorem Source.exists_of_ofProfile {home : Option String} {profile : String}
    {file : Option FileName} {s : Source} (hs : Source.ofProfile home profile file = .ok s) :
    ∃ p, s = .profile ⟨p, none⟩ := by
  unfold ofProfile at hs
  cases hm : NamedProfile.make home profile file with
  | error failure =>
    rw [hm] at hs
    cases hs
  | ok p =>
    rw [hm] at hs
    cases hs
    exact ⟨p, rfl⟩

/-- After any run, a profile provider that has found no keys is what it was when it was made, and
answers with the first keys that were found otherwise, complete or not. So it looks again until
credentials are returned and keeps these, as one made in the world as it is now would, exactly if no
answer of the run was incomplete or the answer to a new look is incomplete, too. -/
theorem Source.ofProfile_next_iff {home : Option String} {profile : String}
    {file : Option FileName} {s : Source} (hs : Source.ofProfile home profile file = .ok s)
    {events : List Event} {w u : World} {q : Provider}
    (hr : Provider.run events (.leaf s, w) = (q, u)) :
    let history := Provider.answers events (.leaf s, w)
    let incomplete := Except.error (.notFound NamedProfile.name .incomplete)
    (history.find? NamedProfile.isFound = none → q = .leaf s) ∧
      (q.resolve u).1 = (history.find? NamedProfile.isFound).getD (s.ask u).1 ∧
      (u.environment.home = home ∨
          (∀ path ∈ file.bind FileName.path?, path.startsAtHome = false) →
        ((q.resolve u).1 = (history.find? (·.isOk)).getD
            ((Source.ofProfile u.environment.home profile file).bind fun made => (made.ask u).1) ↔
          (incomplete ∈ history → (s.ask u).1 = incomplete))) := by
  obtain ⟨p, rfl⟩ := exists_of_ofProfile hs
  intro history incomplete
  have hstart : NamedProfile.Looked p [] ⟨p, none⟩ := .searching rfl
  obtain ⟨state, hq, hl⟩ := hstart.run events w
  rw [hr] at hq
  obtain rfl : q = .leaf (.profile state) := hq
  have hl : NamedProfile.Looked p history state := hl
  refine ⟨fun hnone => ?_, hl.next u, fun hhome => ?_⟩
  · cases hl with
    | searching _ => rfl
    | found hfirst _ =>
      rw [hnone] at hfirst
      cases hfirst
  · have hmade : Source.ofProfile u.environment.home profile file = .ok (.profile ⟨p, none⟩) := by
      rcases hhome with hhome | hpath
      · rw [hhome, hs]
      · rw [← hs]
        unfold ofProfile
        rw [NamedProfile.make_of_not_startsAtHome hpath profile home]
    rw [hmade]
    exact hl.next_iff u

/-- A world with one file for a profile. -/
def NamedProfile.devWorld (content : List UInt8) : World where
  files := [(["creds"], .file content)]

/-- The file comes into being after a look in vain, and goes away again. -/
def NamedProfile.devEvents : List Event :=
  [.files [], .resolve, .files [(["creds"], .file (devFile "AKIADEV" "dev-secret"))], .resolve,
    .files []]

/-- A look in vain, and then keys that stay. -/
theorem Source.ofProfile_next_iff_dev :
    ∃ s q u, Source.ofProfile none "dev" (some (.text "creds")) = .ok s ∧
      Provider.run NamedProfile.devEvents (.leaf s, {}) = (q, u) ∧
      (q.resolve u).1 =
        .ok ⟨⟨.text "AKIADEV", .text "dev-secret", .absent⟩, none, some NamedProfile.name⟩ := by
  have hs : Source.ofProfile none "dev" (some (.text "creds")) =
      .ok (.profile ⟨⟨"dev", some (Path.ofText "creds")⟩, none⟩) := rfl
  have hr : Provider.run NamedProfile.devEvents
      (.leaf (.profile ⟨⟨"dev", some (Path.ofText "creds")⟩, none⟩), {}) = (_, _) := rfl
  obtain ⟨_, hnext, _⟩ := Source.ofProfile_next_iff hs hr
  refine ⟨_, _, _, hs, hr, hnext.trans ?_⟩
  rfl

/-- Once a pair with an empty part was found, it is all that is found, although the file has both
parts by then and a provider that is made now finds them. -/
theorem Source.not_keeps_emptyPart :
    ∃ s q u, Source.ofProfile none "dev" (some (.text "creds")) = .ok s ∧
      Provider.run [.resolve, .files (NamedProfile.devWorld
        (NamedProfile.devFile "AKIADEV" "dev-secret")).files]
        (.leaf s, NamedProfile.devWorld (NamedProfile.devFile "AKIADEV" "")) = (q, u) ∧
      (∀ answer ∈ Provider.answers [.resolve] (.leaf s,
        NamedProfile.devWorld (NamedProfile.devFile "AKIADEV" "")), answer.isOk = false) ∧
      (q.resolve u).1 = .error (.notFound NamedProfile.name .incomplete) ∧
      (Source.ofProfile u.environment.home "dev" (some (.text "creds"))).bind
          (fun made => (made.ask u).1) =
        .ok ⟨⟨.text "AKIADEV", .text "dev-secret", .absent⟩, none, some NamedProfile.name⟩ := by
  refine ⟨_, _, _, rfl, rfl, ?_, rfl, rfl⟩
  decide

end CloudCredentials
