import CloudCredentials.Proofs.TreeAsk
import Mathlib.Data.List.Forall2

/-!
# The first member with credentials

A chain asks its members in order, each once, up to the first one that has credentials; when all
fail it reports the failure of each. Between calls a chain has no state but that of its members,
so each call is like the first call of a chain that is made of the members as they are then.
-/

namespace CloudCredentials.Tree

variable {μ : Type} {b : Behaviour μ}

/-! ### One call -/

/-- Ask each of some members once, in order, whatever they answer. -/
def askEach (b : Behaviour μ) :
    List (Tree μ) → World → List (Except Failure Credentials) × List (Tree μ) × World
  | [], w => ([], [], w)
  | t :: rest, w =>
    let (answer, t, w) := askMember b t w
    let (answers, rest, w) := askEach b rest w
    (answer :: answers, t :: rest, w)

/-- What asking members comes to. Either some fail, the next one has credentials, and those after
it are as they were; or each one fails, and there is an entry with its name and its failure. -/
inductive Served (b : Behaviour μ) (members : List (Tree μ)) (w : World) :
    Except (List (String × Failure)) Credentials × List (Tree μ) × World → Prop
  | first {failures : List Failure} {asked asked' later : List (Tree μ)} {t t' : Tree μ}
    {c : Credentials} {v w' : World} (hm : members = asked ++ t :: later)
    (hf : askEach b asked w = (failures.map .error, asked', v))
    (ht : askMember b t v = (.ok c, t', w')) :
    Served b members w (.ok c, asked' ++ t' :: later, w')
  | none {entries : List (String × Failure)} {members' : List (Tree μ)} {w' : World}
    (hf : askEach b members w = (entries.map (.error ·.2), members', w'))
    (hn : entries.map (·.1) = members'.map (name b)) :
    Served b members w (.error entries, members', w')

theorem Served.cons {t t' : Tree μ} {rest rest' : List (Tree μ)} {w v w' : World}
    {failure : Failure} {answer : Except (List (String × Failure)) Credentials}
    (ht : askMember b t w = (.error failure, t', v)) (hr : Served b rest v (answer, rest', w')) :
    Served b (t :: rest) w (answer.mapError ((name b t', failure) :: ·), t' :: rest', w') := by
  generalize hs : (answer, rest', w') = r at hr
  cases hr with
  | @first failures asked asked' later u u' c x _ hm hf hu =>
    cases hs
    subst hm
    have he : askEach b (t :: asked) w = ((failure :: failures).map .error, t' :: asked', x) := by
      simp only [askEach, ht, hf, List.map_cons]
    exact .first rfl he hu
  | @none entries _ _ hf hn =>
    cases hs
    have he : askEach b (t :: rest) w = (((name b t', failure) :: entries).map (.error ·.2),
        t' :: rest', w') := by
      simp only [askEach, ht, hf, List.map_cons]
    refine .none he ?_
    simp only [List.map_cons, hn]

theorem askFirst_served (members : List (Tree μ)) (w : World) :
    Served b members w (askFirst b members w) := by
  induction members generalizing w with
  | nil =>
    have he : askEach b [] w = (([] : List (String × Failure)).map (.error ·.2), [], w) := rfl
    exact .none he rfl
  | cons t rest ih =>
    rw [askFirst_cons]
    rcases ht : askMember b t w with ⟨answer, t', v⟩
    cases answer with
    | ok c =>
      have he : askEach b [] w = (([] : List Failure).map .error, [], w) := rfl
      exact .first rfl he ht
    | error failure => exact .cons ht (ih v)

/-! ### Many calls -/

/-- A member after it was asked any number of times, and not otherwise. -/
inductive Evolved (b : Behaviour μ) (t : Tree μ) : Tree μ → Prop
  | refl : Evolved b t t
  | asked {u : Tree μ} (h : Evolved b t u) (w : World) : Evolved b t (askMember b u w).2.1

theorem askFirst_evolved {members ms : List (Tree μ)} (h : List.Forall₂ (Evolved b) members ms)
    (w : World) : List.Forall₂ (Evolved b) members (askFirst b ms w).2.1 := by
  induction h generalizing w with
  | nil => exact .nil
  | @cons t u rest rest' hu hr ih =>
    have hasked := hu.asked w
    rw [askFirst_cons]
    rcases ha : askMember b u w with ⟨answer, u', v⟩
    rw [ha] at hasked
    cases answer with
    | ok c => exact .cons hasked hr
    | error failure => exact .cons hasked (ih v)

/-- Ask a provider again and again; before each call the world changes in any way. -/
def askAgain (b : Behaviour μ) (changes : List (World → World)) (s : Tree μ × World) :
    Tree μ × World :=
  changes.foldl (fun s change => (ask b s.1 (change s.2)).2) s

theorem askAgain_chain {members ms : List (Tree μ)}
    (h : List.Forall₂ (Evolved b) members ms) (changes : List (World → World)) (w : World) :
    ∃ ms', (askAgain b changes (.chain ms, w)).1 = .chain ms' ∧
      List.Forall₂ (Evolved b) members ms' := by
  induction changes generalizing ms w with
  | nil => exact ⟨ms, rfl, h⟩
  | cons change rest ih => exact ih (askFirst_evolved h (change w)) _

/-- A chain can be made of any members as long as there are some. After any calls it is the chain
of the members as they are then, and the next call, in any world, asks these in order up to the
first one with credentials. -/
theorem ask_ofMembers (b : Behaviour μ) (m : Tree μ) (rest : List (Tree μ))
    (changes : List (World → World)) (w : World) :
    ∃ t ms, ofMembers (m :: rest) = .ok t ∧ ofMembers ms = .ok (askAgain b changes (t, w)).1 ∧
      List.Forall₂ (Evolved b) (m :: rest) ms ∧
      ∀ v, ∃ answer ms' v', Served b ms v (answer, ms', v') ∧
        ask b (askAgain b changes (t, w)).1 v =
          (answer.mapError .unavailable, .chain ms', v') := by
  have hrefl : List.Forall₂ (Evolved b) (m :: rest) (m :: rest) :=
    List.forall₂_same.mpr fun _ _ => .refl
  obtain ⟨ms, he, hev⟩ := askAgain_chain hrefl changes w
  refine ⟨.chain (m :: rest), ms, rfl, ?_, hev, ?_⟩
  · rw [he]
    cases hev with
    | cons _ _ => rfl
  · intro v
    rw [he]
    exact ⟨_, _, _, askFirst_served ms v, rfl⟩

end CloudCredentials.Tree
