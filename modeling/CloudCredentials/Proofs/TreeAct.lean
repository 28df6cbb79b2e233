import CloudCredentials.Proofs.TreeAsk

/-!
# Acting on the sources of a tree

Acting on the source at one place, and on all sources in turn. As for asking, each source is
afterwards as it was or as the action has left it, and relations between worlds are carried through
the tree.
-/

namespace CloudCredentials.Tree

variable {μ : Type}

/-! ### One place -/

mutual

/-- Act on the source at a place, counted from left to right. -/
def actAt (f : μ → World → μ × World) : Nat → Tree μ → World → Tree μ × World
  | place, .leaf source, w =>
    if place = 0 then
      let (source, w) := f source w
      (.leaf source, w)
    else (.leaf source, w)
  | place, .chain members, w =>
    let (members, w) := actAtAll f place members w
    (.chain members, w)

def actAtAll (f : μ → World → μ × World) : Nat → List (Tree μ) → World → List (Tree μ) × World
  | _, [], w => ([], w)
  | place, t :: rest, w =>
    if place < (leaves t).length then
      let (t, w) := actAt f place t w
      (t :: rest, w)
    else
      let (rest, w) := actAtAll f (place - (leaves t).length) rest w
      (t :: rest, w)

end

section Acting

variable {f : μ → World → μ × World} {R : World → World → Prop} (refl : ∀ w, R w w)

include refl

theorem actAtAll_kept {members : List (Tree μ)}
    (hm : ∀ m ∈ members, ∀ place w, ((∀ s v, R v (f s v).2) → R w (actAt f place m w).2) ∧
      ∀ s ∈ leaves (actAt f place m w).1, Kept f R (leaves m) w (actAt f place m w).2 s)
    (place : Nat) (w : World) :
    ((∀ s v, R v (f s v).2) → R w (actAtAll f place members w).2) ∧
      ∀ s ∈ leavesAll (actAtAll f place members w).1,
        Kept f R (leavesAll members) w (actAtAll f place members w).2 s := by
  induction members generalizing place with
  | nil => exact ⟨fun _ => refl w, fun s hs => by cases hs⟩
  | cons t rest ih =>
    rw [actAtAll]
    split
    · obtain ⟨hw, hs⟩ := hm t List.mem_cons_self place w
      refine ⟨hw, ?_⟩
      intro s hmem
      rcases List.mem_append.mp hmem with hmem | hmem
      · exact (hs s hmem).mono fun x hx => List.mem_append_left _ hx
      · exact .inl (List.mem_append_right _ hmem)
    · obtain ⟨hw, hs⟩ := ih (fun m h => hm m (List.mem_cons_of_mem _ h))
        (place - (leaves t).length)
      refine ⟨hw, ?_⟩
      intro s hmem
      rcases List.mem_append.mp hmem with hmem | hmem
      · exact .inl (List.mem_append_left _ hmem)
      · exact (hs s hmem).mono fun x hx => List.mem_append_right _ hx

/-- Acting at a place acts on one source at most, and leaves the others as they are. -/
theorem actAt_kept (t : Tree μ) : ∀ place w,
    ((∀ s v, R v (f s v).2) → R w (actAt f place t w).2) ∧
      ∀ s ∈ leaves (actAt f place t w).1, Kept f R (leaves t) w (actAt f place t w).2 s := by
  induction t using inductionOn with
  | leaf source =>
    intro place w
    rw [actAt]
    split
    · refine ⟨fun act => act source w, ?_⟩
      intro s hs
      exact .inr ⟨source, List.mem_singleton_self _, w, refl w, List.mem_singleton.mp hs, refl _⟩
    · exact ⟨fun _ => refl w, fun s hs => .inl hs⟩
  | chain members ih => exact actAtAll_kept refl ih

/-! ### All sources -/

theorem mapAll_kept (trans : ∀ {w v u}, R w v → R v u → R w u) {members : List (Tree μ)}
    (hm : ∀ m ∈ members, ∀ w, R w (mapLeaves f m w).2 ∧
      ∀ s ∈ leaves (mapLeaves f m w).1, Kept f R (leaves m) w (mapLeaves f m w).2 s) (w : World) :
    R w (mapAll f members w).2 ∧ ∀ s ∈ leavesAll (mapAll f members w).1,
      Kept f R (leavesAll members) w (mapAll f members w).2 s := by
  induction members generalizing w with
  | nil => exact ⟨refl w, fun s hs => by cases hs⟩
  | cons t rest ih =>
    obtain ⟨htw, hts⟩ := hm t List.mem_cons_self w
    obtain ⟨hrw, hrs⟩ := ih (fun m h => hm m (List.mem_cons_of_mem _ h)) (mapLeaves f t w).2
    refine ⟨trans htw hrw, ?_⟩
    intro s hs
    rcases List.mem_append.mp hs with hs | hs
    · exact ((hts s hs).later trans hrw).mono fun x hx => List.mem_append_left _ hx
    · exact ((hrs s hs).earlier trans htw).mono fun x hx => List.mem_append_right _ hx

theorem mapLeaves_kept (trans : ∀ {w v u}, R w v → R v u → R w u)
    (act : ∀ s w, R w (f s w).2) (t : Tree μ) : ∀ w, R w (mapLeaves f t w).2 ∧
      ∀ s ∈ leaves (mapLeaves f t w).1, Kept f R (leaves t) w (mapLeaves f t w).2 s := by
  induction t using inductionOn with
  | leaf source =>
    intro w
    refine ⟨act source w, ?_⟩
    intro s hs
    exact .inr ⟨source, List.mem_singleton_self _, w, refl w, List.mem_singleton.mp hs, refl _⟩
  | chain members ih => exact mapAll_kept refl trans ih

end Acting

end CloudCredentials.Tree
