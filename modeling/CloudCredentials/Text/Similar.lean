/-!
# Similar words

How alike two words are, by the longest common runs of characters, and the words of a list that
are close to a given one.
-/

namespace CloudCredentials.Text

/-! ### The longest common run -/

/-- A run of equal characters: where it starts in either word and how long it is. -/
structure CommonRun where
  left : Nat
  right : Nat
  size : Nat
  deriving DecidableEq, Repr

def commonStart : List Char → List Char → Nat
  | a :: as, b :: bs => if a = b then commonStart as bs + 1 else 0
  | _, _ => 0

/-- All common runs that start somewhere in both words, by the left and then the right start. -/
def commonRuns (as bs : List Char) : List CommonRun :=
  (List.range as.length).flatMap fun i =>
    (List.range bs.length).map fun j => ⟨i, j, commonStart (as.drop i) (bs.drop j)⟩

def longestRun (as bs : List Char) : CommonRun :=
  (commonRuns as bs).foldl (fun best r => if best.size < r.size then r else best) ⟨0, 0, 0⟩

/-! ### Likeness -/

/-- How many characters two words share: those of the longest common run, then those shared by
the parts before it and by the parts after it. -/
def sharedCount : Nat → List Char → List Char → Nat
  | 0, _, _ => 0
  | fuel + 1, as, bs =>
    let run := longestRun as bs
    if run.size = 0 then 0
    else run.size + sharedCount fuel (as.take run.left) (bs.take run.right) +
      sharedCount fuel (as.drop (run.left + run.size)) (bs.drop (run.right + run.size))

/-- The likeness of two words as a fraction: twice the shared characters over all characters. -/
def likeness (a b : String) : Nat × Nat :=
  let as := a.toList
  let bs := b.toList
  let total := as.length + bs.length
  if total = 0 then (1, 1) else (2 * sharedCount (as.length + 1) as bs, total)

def fractionLt (p q : Nat × Nat) : Bool := p.1 * q.2 < q.1 * p.2

/-! ### Close words -/

def wordLt (a b : String) : Bool := a < b

/-- At most three of the words, the ones most like the given word first; words with a likeness
below six tenths are not close. -/
def closeWords (word : String) (words : List String) : List String :=
  let scored := (words.map fun w => (likeness w word, w)).filter fun p => !fractionLt p.1 (6, 10)
  let before (p q : (Nat × Nat) × String) : Bool :=
    fractionLt q.1 p.1 || (!fractionLt p.1 q.1 && !wordLt p.2 q.2)
  ((scored.mergeSort before).take 3).map Prod.snd

end CloudCredentials.Text
