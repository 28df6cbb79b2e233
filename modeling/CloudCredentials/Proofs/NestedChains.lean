import CloudCredentials.Proofs.TreeAsk
import CloudCredentials.Proofs.UnreadLog

/-!
# Chains within chains

A chain of chains does what the one chain of all its sources does: the same sources are asked in
the same order, each is left in the same way, and the same credentials are handed out. Only what
is logged on the way differs, and the failures are reported by level: put in place of the entry of
each chain within, the entries that it reports make the report of the one chain.
-/

namespace CloudCredentials.Tree

variable {μ : Type}

/-- The sources of a tree next to each other, without the chains around them. -/
def flat (t : Tree μ) : List (Tree μ) := (leaves t).map .leaf

def flatAll (members : List (Tree μ)) : List (Tree μ) := (leavesAll members).map .leaf

theorem flatAll_cons (t : Tree μ) (rest : List (Tree μ)) :
    flatAll (t :: rest) = flat t ++ flatAll rest := List.map_append

theorem leavesAll_map_leaf (sources : List μ) : leavesAll (sources.map .leaf) = sources := by
  rw [leavesAll_eq_flatMap, List.flatMap_map]
  exact List.flatMap_singleton' sources

theorem ask_chain (b : Behaviour μ) (members : List (Tree μ)) (w : World) :
    ask b (.chain members) w = ((askFirst b members w).1.mapError .unavailable,
      .chain (askFirst b members w).2.1, (askFirst b members w).2.2) := rfl

/-! ### The sources that are asked -/

/-- One source that is asked: as it was then, its answer, and as the asking has left it. -/
structure Asking (μ : Type) where
  source : μ
  answer : Except Failure Credentials
  left : μ

mutual

/-- What asking a tree comes to at its sources, in order. -/
def asked (b : Behaviour μ) : Tree μ → World → List (Asking μ)
  | .leaf source, w => [⟨source, (b.ask source w).1, (b.ask source w).2.1⟩]
  | .chain members, w => askedFirst b members w

def askedFirst (b : Behaviour μ) : List (Tree μ) → World → List (Asking μ)
  | [], _ => []
  | t :: rest, w =>
    asked b t (w.record .debug .providers ("Trying provider " ++ shown b t)) ++
      match askMember b t w with
      | (.ok _, _, _) => []
      | (.error _, _, w) => askedFirst b rest w

end

theorem askedFirst_append (b : Behaviour μ) (members more : List (Tree μ)) (w : World) :
    askedFirst b (members ++ more) w = askedFirst b members w ++
      match askFirst b members w with
      | (.ok _, _, _) => []
      | (.error _, _, w) => askedFirst b more w := by
  induction members generalizing w with
  | nil => rfl
  | cons t rest ih =>
    rw [List.cons_append, askedFirst, askedFirst, askFirst_cons, List.append_assoc]
    rcases askMember b t w with ⟨failure | credentials, t', v⟩
    · dsimp only
      rw [ih]
      rcases askFirst b rest v with ⟨attempts | credentials, rest', x⟩
      · rfl
      · rfl
    · rfl

/-- The sources that are asked are the first ones, and all of them when none has credentials. Those
after them stay as they are. -/
theorem asked_leaves (b : Behaviour μ) (t : Tree μ) (w : World) :
    ∃ later, leaves t = (asked b t w).map (·.source) ++ later ∧
      leaves (ask b t w).2.1 = (asked b t w).map (·.left) ++ later ∧
      ∀ failure, (ask b t w).1 = .error failure → later = [] := by
  induction t using inductionOn generalizing w with
  | leaf source => exact ⟨[], rfl, rfl, fun _ _ => rfl⟩
  | chain members ih =>
    suffices hall : ∃ later, leavesAll members = (askedFirst b members w).map (·.source) ++ later ∧
        leavesAll (askFirst b members w).2.1 = (askedFirst b members w).map (·.left) ++ later ∧
        ∀ attempts, (askFirst b members w).1 = .error attempts → later = [] by
      obtain ⟨later, hs, hl, hnone⟩ := hall
      refine ⟨later, hs, hl, fun failure hf => ?_⟩
      rw [ask_chain] at hf
      cases ha : (askFirst b members w).1 with
      | error attempts => exact hnone attempts ha
      | ok credentials =>
        rw [ha] at hf
        cases hf
    induction members generalizing w with
    | nil => exact ⟨[], rfl, rfl, fun _ _ => rfl⟩
    | cons t rest ihr =>
      obtain ⟨later, hs, hl, hnone⟩ := ih t List.mem_cons_self
        (w.record .debug .providers ("Trying provider " ++ shown b t))
      rw [askedFirst, askFirst_cons, askMember, leavesAll, hs]
      rcases ha : ask b t (w.record .debug .providers ("Trying provider " ++ shown b t)) with
        ⟨failure | credentials, t', v⟩
      · rw [ha] at hl hnone
        obtain rfl := hnone failure rfl
        obtain ⟨later, hs', hl', hnone'⟩ := ihr (fun m h => ih m (List.mem_cons_of_mem _ h))
          (v.record .debug .providers
            ("Provider " ++ name b t' ++ " returned no credentials: " ++ failure.message))
        dsimp only at hl ⊢
        refine ⟨later, by simp only [hs', List.map_append, List.append_nil, List.append_assoc],
          by simp only [leavesAll, hl, hl', List.map_append, List.append_nil, List.append_assoc],
          ?_⟩
        intro attempts ha
        rcases hr : askFirst b rest _ with ⟨attempts' | credentials, rest', x⟩
        · exact hnone' attempts' (by rw [hr])
        · rw [hr] at ha
          cases ha
      · rw [ha] at hl
        dsimp only at hl ⊢
        refine ⟨later ++ leavesAll rest, by simp only [List.append_nil, List.append_assoc],
          by simp only [leavesAll, hl, List.append_nil, List.append_assoc], ?_⟩
        intro attempts ha
        cases ha

theorem askedFirst_leaves (b : Behaviour μ) (sources : List μ) (w : World) :
    ∃ later, sources = (askedFirst b (sources.map .leaf) w).map (·.source) ++ later ∧
      leavesAll (askFirst b (sources.map .leaf) w).2.1 =
        (askedFirst b (sources.map .leaf) w).map (·.left) ++ later := by
  obtain ⟨later, hs, hl, _⟩ := asked_leaves b (.chain (sources.map .leaf)) w
  exact ⟨later, (leavesAll_map_leaf sources).symm.trans hs, hl⟩

theorem mem_asked {b : Behaviour μ} {t : Tree μ} {w : World} {a : Asking μ}
    (ha : a ∈ asked b t w) : ∃ v u, b.ask a.source v = (a.answer, a.left, u) := by
  induction t using inductionOn generalizing w with
  | leaf source =>
    rw [List.mem_singleton.mp ha]
    exact ⟨w, (b.ask source w).2.2, rfl⟩
  | chain members ih =>
    change a ∈ askedFirst b members w at ha
    induction members generalizing w with
    | nil => cases ha
    | cons t rest ihr =>
      rcases List.mem_append.mp ha with ha | ha
      · exact ih t List.mem_cons_self ha
      · rcases hm : askMember b t w with ⟨failure | credentials, t', v⟩
        · rw [hm] at ha
          exact ihr (fun m h => ih m (List.mem_cons_of_mem _ h)) ha
        · rw [hm] at ha
          cases ha

/-- All sources that are asked fail, but for a last one whose credentials are handed out. -/
theorem asked_answers (b : Behaviour μ) (t : Tree μ) (w : World) :
    ∃ vain : List Failure, (asked b t w).map (·.answer) =
      vain.map .error ++ (ask b t w).1.toOption.toList.map .ok := by
  induction t using inductionOn generalizing w with
  | leaf source =>
    rw [asked, ask]
    rcases b.ask source w with ⟨failure | credentials, source', v⟩
    · exact ⟨[failure], rfl⟩
    · exact ⟨[], rfl⟩
  | chain members ih =>
    suffices hall : ∃ vain : List Failure, (askedFirst b members w).map (·.answer) =
        vain.map .error ++ (askFirst b members w).1.toOption.toList.map .ok by
      obtain ⟨vain, hvain⟩ := hall
      refine ⟨vain, hvain.trans ?_⟩
      rw [ask_chain]
      cases (askFirst b members w).1 with
      | error attempts => rfl
      | ok credentials => rfl
    induction members generalizing w with
    | nil => exact ⟨[], rfl⟩
    | cons t rest ihr =>
      obtain ⟨vain, hvain⟩ := ih t List.mem_cons_self
        (w.record .debug .providers ("Trying provider " ++ shown b t))
      rw [askedFirst, askFirst_cons, askMember, List.map_append, hvain]
      rcases ask b t (w.record .debug .providers ("Trying provider " ++ shown b t)) with
        ⟨failure | credentials, t', v⟩
      · obtain ⟨vain', hvain'⟩ := ihr (fun m h => ih m (List.mem_cons_of_mem _ h))
          (v.record .debug .providers
            ("Provider " ++ name b t' ++ " returned no credentials: " ++ failure.message))
        refine ⟨vain ++ vain', ?_⟩
        dsimp only
        rw [hvain', List.map_append, List.append_assoc, List.append_assoc]
        cases (askFirst b rest _).1 with
        | error attempts => rfl
        | ok credentials => rfl
      · exact ⟨vain, List.append_nil _⟩

/-! ### Reports by level -/

mutual

/-- The entries that an entry for a tree stands for: a chain stands for what its members report. -/
def expand : Tree μ → String × Failure → List (String × Failure)
  | .chain members, (_, .unavailable attempts) => expandAll members attempts
  | _, entry => [entry]

def expandAll : List (Tree μ) → List (String × Failure) → List (String × Failure)
  | t :: rest, entry :: entries => expand t entry ++ expandAll rest entries
  | _, _ => []

end

/-! ### Asking without the chains between -/

/-- In a world with any other log, asking the sources of a tree one after the other comes to the
same as asking the tree. -/
def IsFlat (b : Behaviour μ) (t : Tree μ) : Prop :=
  ∀ w log, askedFirst b (flat t) (w.withLog log) = asked b t w ∧ ∃ log',
    askFirst b (flat t) (w.withLog log) =
      ((ask b t w).1.mapError fun failure => expand t (name b (ask b t w).2.1, failure),
        flat (ask b t w).2.1, (ask b t w).2.2.withLog log')

theorem isFlat_leaf {b : Behaviour μ} (hb : b.IgnoresLog) (source : μ) :
    IsFlat b (.leaf source) := by
  intro w log
  obtain ⟨log', h⟩ :=
    hb source w (log ++ [⟨.debug, .providers, "Trying provider " ++ b.shown source⟩])
  have h : b.ask source ((w.withLog log).record .debug .providers
      ("Trying provider " ++ shown b (.leaf source))) = _ := h
  rw [flat, leaves, List.map_singleton, askedFirst, askFirst_cons, asked, asked, askMember, ask,
    ask, h]
  rcases b.ask source w with ⟨failure | credentials, source', v⟩
  · exact ⟨rfl, _, rfl⟩
  · exact ⟨rfl, _, rfl⟩

theorem askFirst_flatAll {b : Behaviour μ} {members : List (Tree μ)}
    (hm : ∀ m ∈ members, IsFlat b m) (w : World) (log : List Record) :
    askedFirst b (flatAll members) (w.withLog log) = askedFirst b members w ∧ ∃ log',
      askFirst b (flatAll members) (w.withLog log) =
        ((askFirst b members w).1.mapError (expandAll members),
          flatAll (askFirst b members w).2.1, (askFirst b members w).2.2.withLog log') := by
  induction members generalizing w log with
  | nil => exact ⟨rfl, log, rfl⟩
  | cons t rest ih =>
    obtain ⟨ha, log₁, hf⟩ := hm t List.mem_cons_self
      (w.record .debug .providers ("Trying provider " ++ shown b t)) log
    have ha : askedFirst b (flat t) (w.withLog log) = _ := ha
    have hf : askFirst b (flat t) (w.withLog log) = _ := hf
    rw [flatAll_cons, askedFirst_append, askFirst_append, ha, hf, askedFirst, askFirst_cons,
      askMember]
    rcases ask b t (w.record .debug .providers ("Trying provider " ++ shown b t)) with
      ⟨failure | credentials, t', v⟩
    · obtain ⟨hb, log₂, hg⟩ := ih (fun m h => hm m (List.mem_cons_of_mem _ h))
        (v.record .debug .providers
          ("Provider " ++ name b t' ++ " returned no credentials: " ++ failure.message)) log₁
      have hb : askedFirst b (flatAll rest) (v.withLog log₁) = _ := hb
      have hg : askFirst b (flatAll rest) (v.withLog log₁) = _ := hg
      dsimp only
      -- the flat members failed, so that the rest of the flat ones are asked
      show _ ++ askedFirst b (flatAll rest) (v.withLog log₁) = _ ∧
        ∃ log', ((askFirst b (flatAll rest) (v.withLog log₁)).1.mapError
            (t.expand (name b t', failure) ++ ·),
          t'.flat ++ (askFirst b (flatAll rest) (v.withLog log₁)).2.1,
          (askFirst b (flatAll rest) (v.withLog log₁)).2.2) = _
      rw [hb, hg]
      rcases askFirst b rest _ with ⟨attempts | credentials, rest', x⟩
      · exact ⟨rfl, log₂, Prod.ext rfl (Prod.ext (flatAll_cons t' rest').symm rfl)⟩
      · exact ⟨rfl, log₂, Prod.ext rfl (Prod.ext (flatAll_cons t' rest').symm rfl)⟩
    · exact ⟨rfl, log₁, Prod.ext rfl (Prod.ext (flatAll_cons t' rest).symm rfl)⟩

theorem isFlat {b : Behaviour μ} (hb : b.IgnoresLog) (t : Tree μ) : IsFlat b t := by
  induction t using inductionOn with
  | leaf source => exact isFlat_leaf hb source
  | chain members ih =>
    intro w log
    obtain ⟨ha, log', hf⟩ := askFirst_flatAll ih w log
    refine ⟨ha, log', ?_⟩
    rw [ask]
    rcases hn : askFirst b members w with ⟨attempts | credentials, members', v⟩
    · rw [hn] at hf
      exact hf
    · rw [hn] at hf
      exact hf

/-- A chain in whose members there are chains does what the one chain of all its sources does. The
same sources are asked, in order from the left, with the same answers; each is left in the same
way, and those behind stay as they are. The world is left in the same way but for its log. Either
both hand out credentials, the same ones, or both fail, and then what the one chain reports is what
the report of the other stands for when each entry of a chain is replaced by what it reports. -/
theorem ask_chain_flat {b : Behaviour μ} (hb : b.IgnoresLog) (members : List (Tree μ)) (w : World) :
    let nested := ask b (.chain members) w
    let single := ask b (.chain (flatAll members)) w
    let askings := asked b (.chain members) w
    asked b (.chain (flatAll members)) w = askings ∧
      (∃ later, leavesAll members = askings.map (·.source) ++ later ∧
        leaves nested.2.1 = askings.map (·.left) ++ later) ∧
      single.2.1 = .chain (flat nested.2.1) ∧ leaves single.2.1 = leaves nested.2.1 ∧
      (∃ log, single.2.2 = nested.2.2.withLog log) ∧
      (∀ credentials, nested.1 = .ok credentials ↔ single.1 = .ok credentials) ∧
      ∀ failure, nested.1 = .error failure → ∃ attempts, failure = .unavailable attempts ∧
        single.1 = .error (.unavailable (expandAll members attempts)) := by
  intro nested single askings
  have hm : ∀ m ∈ members, IsFlat b m := fun m _ => isFlat hb m
  obtain ⟨ha, log, hf⟩ := askFirst_flatAll hm w w.log
  have ha : askedFirst b (flatAll members) w = askings := ha
  have hf : askFirst b (flatAll members) w = _ := hf
  have hnested : nested = _ := ask_chain b members w
  have hsingle : single = _ := ask_chain b (flatAll members) w
  rw [hf] at hsingle
  have hleaves : leaves single.2.1 = leaves nested.2.1 := by
    rw [hsingle, hnested]
    exact leavesAll_map_leaf _
  obtain ⟨later, hsources, hleft⟩ := askedFirst_leaves b (leavesAll members) w
  have hsources : leavesAll members = (askedFirst b (flatAll members) w).map (·.source) ++ later :=
    hsources
  have hleft : leaves single.2.1 = (askedFirst b (flatAll members) w).map (·.left) ++ later := hleft
  rw [ha] at hsources hleft
  refine ⟨ha, ⟨later, hsources, hleaves ▸ hleft⟩, ?_, hleaves, ?_, ?_, ?_⟩
  · rw [hsingle, hnested]
    rfl
  · rw [hsingle, hnested]
    exact ⟨log, rfl⟩
  · intro c
    rw [hsingle, hnested]
    cases (askFirst b members w).1 with
    | error attempts => exact iff_of_false (fun h => nomatch h) fun h => nomatch h
    | ok credentials => exact Iff.rfl
  · intro failure h
    rw [hsingle]
    rw [hnested] at h
    cases hn : (askFirst b members w).1 with
    | error attempts =>
      rw [hn] at h
      cases h
      exact ⟨attempts, rfl, rfl⟩
    | ok credentials =>
      rw [hn] at h
      cases h

def failing (name : String) : Source := .scripted name [.error (.notFound name .nothing)]

def withNested : List (Tree Source) :=
  [.chain [.leaf (failing "first"), .chain [.leaf (failing "second")]], .leaf (failing "third")]

/-- Three sources at three depths, none of which has credentials. -/
theorem ask_chain_flat_failing :
    (ask Source.behaviour (.chain withNested) {}).1 = .error (.unavailable
        [(Failure.chainName, .unavailable [("first", .notFound "first" .nothing),
            (Failure.chainName, .unavailable [("second", .notFound "second" .nothing)])]),
          ("third", .notFound "third" .nothing)]) ∧
      (ask Source.behaviour (.chain (flatAll withNested)) {}).1 = .error (.unavailable
        [("first", .notFound "first" .nothing), ("second", .notFound "second" .nothing),
          ("third", .notFound "third" .nothing)]) ∧
      (asked Source.behaviour (.chain withNested) {}).map (·.source) =
        [failing "first", failing "second", failing "third"] := by
  obtain ⟨-, ⟨later, hsources, -⟩, -, -, -, -, hreport⟩ :=
    ask_chain_flat Source.behaviour_ignoresLog withNested {}
  have hnested : (ask Source.behaviour (.chain withNested) {}).1 = .error (.unavailable _) := rfl
  obtain ⟨attempts, he, hsingle⟩ := hreport _ hnested
  cases he
  have hall : (asked Source.behaviour (.chain withNested) {}).length = 3 := rfl
  have hlater : later = [] := by
    have hlength := congrArg List.length hsources
    rw [List.length_append, List.length_map, hall] at hlength
    exact List.length_eq_zero_iff.mp (Nat.add_left_cancel hlength.symm)
  rw [hlater, List.append_nil] at hsources
  exact ⟨hnested, hsingle, hsources.symm⟩

end CloudCredentials.Tree
