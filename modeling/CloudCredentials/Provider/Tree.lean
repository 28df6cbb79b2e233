import CloudCredentials.World

/-!
# Provider trees

A provider is a single source of credentials or a chain of providers (`CredentialsProviderChain`). A
chain asks its members in order, starts with the first one each time, and hands out what the first
one that has credentials hands out; a chain whose members all fail reports the failure of each.

The sources are of any type, as long as they can be named, shown and asked.
-/

namespace CloudCredentials

/-! ### Sources and trees -/

/-- What it takes to be a source of credentials. Asking a source may change it, also when it
fails. -/
structure Behaviour (μ : Type) where
  name : μ → String
  shown : μ → String
  ask : μ → World → Except Failure Credentials × μ × World

/-- A single source, or a chain of members. -/
inductive Tree (μ : Type)
  | leaf (source : μ)
  | chain (members : List (Tree μ))

namespace Tree

variable {μ : Type}

/-- The chain of some members; a chain has at least one. -/
def ofMembers : List (Tree μ) → Except Failure (Tree μ)
  | [] => .error (.refused .noMembers)
  | members => .ok (.chain members)

def name (b : Behaviour μ) : Tree μ → String
  | .leaf source => b.name source
  | .chain _ => Failure.chainName

mutual

def shown (b : Behaviour μ) : Tree μ → String
  | .leaf source => b.shown source
  | .chain members => Failure.chainName ++ "([" ++ ", ".intercalate (shownAll b members) ++ "])"

def shownAll (b : Behaviour μ) : List (Tree μ) → List String
  | [] => []
  | t :: rest => shown b t :: shownAll b rest

end

mutual

def leaves : Tree μ → List μ
  | .leaf source => [source]
  | .chain members => leavesAll members

def leavesAll : List (Tree μ) → List μ
  | [] => []
  | t :: rest => leaves t ++ leavesAll rest

end

def indentation : Nat → String
  | 0 => ""
  | depth + 1 => "  " ++ indentation depth

mutual

/-- The description of a tree: a line for each provider, indented by its depth. -/
def lines (b : Behaviour μ) (depth : Nat) : Tree μ → List String
  | .leaf source => [indentation depth ++ b.shown source]
  | .chain members => (indentation depth ++ Failure.chainName) :: linesAll b (depth + 1) members

def linesAll (b : Behaviour μ) (depth : Nat) : List (Tree μ) → List String
  | [] => []
  | t :: rest => lines b depth t ++ linesAll b depth rest

end

/-! ### Asking -/

mutual

def ask (b : Behaviour μ) : Tree μ → World → Except Failure Credentials × Tree μ × World
  | .leaf source, w =>
    let (answer, source, w) := b.ask source w
    (answer, .leaf source, w)
  | .chain members, w =>
    let (answer, members, w) := askFirst b members w
    (answer.mapError .unavailable, .chain members, w)

def askFirst (b : Behaviour μ) :
    List (Tree μ) → World →
      Except (List (String × Failure)) Credentials × List (Tree μ) × World
  | [], w => (.error [], [], w)
  | t :: rest, w =>
    let w := w.record .debug .providers ("Trying provider " ++ shown b t)
    match ask b t w with
    | (.ok credentials, t, w) =>
      (.ok credentials, t :: rest, w.record .info .providers ("Got credentials from " ++ name b t))
    | (.error failure, t, w) =>
      let w := w.record .debug .providers
        ("Provider " ++ name b t ++ " returned no credentials: " ++ failure.message)
      let (answer, rest, w) := askFirst b rest w
      (answer.mapError ((name b t, failure) :: ·), t :: rest, w)

end

theorem askFirst_nil (b : Behaviour μ) (w : World) : askFirst b [] w = (.error [], [], w) := rfl

/-! ### Changing all sources -/

mutual

def mapLeaves (f : μ → World → μ × World) : Tree μ → World → Tree μ × World
  | .leaf source, w =>
    let (source, w) := f source w
    (.leaf source, w)
  | .chain members, w =>
    let (members, w) := mapAll f members w
    (.chain members, w)

def mapAll (f : μ → World → μ × World) : List (Tree μ) → World → List (Tree μ) × World
  | [], w => ([], w)
  | t :: rest, w =>
    let (t, w) := mapLeaves f t w
    let (rest, w) := mapAll f rest w
    (t :: rest, w)

end

end Tree

end CloudCredentials
