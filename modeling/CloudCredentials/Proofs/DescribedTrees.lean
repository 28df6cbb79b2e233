import CloudCredentials.Proofs.DescriptionLines

/-!
# Trees told by their lines

The lines of a tree tell the tree, as far as its sources are told by what is shown of them. The
members of a chain are the lines below it that are indented deeper, up to the first that is not, so
that it does not matter how the chains are nested or what is shown of the sources.
-/

namespace CloudCredentials.Tree

variable {μ : Type} {b : Behaviour μ}

/-! ### Sources in lines -/

/-- The text can stand for a source in a line: it does not start with a space, which would make the
indentation deeper, and it is not what stands for a chain. -/
def IsSourceTitle (text : String) : Prop :=
  text.toList.head? ≠ some ' ' ∧ text ≠ Failure.chainName

def IsTitled (b : Behaviour μ) (t : Tree μ) : Prop := ∀ s ∈ leaves t, IsSourceTitle (b.shown s)

theorem IsTitled.title_head? {t : Tree μ} (h : t.IsTitled b) :
    (t.title b).toList.head? ≠ some ' ' := by
  cases t with
  | leaf s => exact (h s (List.mem_singleton_self s)).1
  | chain members =>
    have hname : Failure.chainName.toList.head? ≠ some ' ' := by decide
    exact hname

theorem exists_lines (b : Behaviour μ) (depth : Nat) (t : Tree μ) :
    ∃ rest, lines b depth t = (indentation depth ++ t.title b) :: rest := by
  cases t with
  | leaf s => exact ⟨[], rfl⟩
  | chain members => exact ⟨linesAll b (depth + 1) members, rfl⟩

/-! ### Indentation -/

theorem indentation_succ_append (depth : Nat) (text : String) :
    indentation (depth + 1) ++ text = indentation depth ++ ("  " ++ text) := by
  induction depth with
  | zero => rfl
  | succ depth ih =>
    rw [indentation, String.append_assoc, ih, indentation, String.append_assoc]

/-- The first line, if there is one, is not indented to the depth. -/
def EndsAbove (depth : Nat) (rest : List String) : Prop :=
  ∀ line ∈ rest.head?, ∀ text, line ≠ indentation depth ++ text

theorem EndsAbove.succ {depth : Nat} {rest : List String} (h : EndsAbove depth rest) :
    EndsAbove (depth + 1) rest := by
  intro line hl text
  rw [indentation_succ_append]
  exact h line hl ("  " ++ text)

theorem endsAbove_nil (depth : Nat) : EndsAbove depth [] := nofun

theorem endsAbove_cons {depth : Nat} {title : String} (h : title.toList.head? ≠ some ' ')
    (rest : List String) : EndsAbove (depth + 1) ((indentation depth ++ title) :: rest) := by
  rintro _ ⟨⟩ text he
  rw [indentation_succ_append] at he
  have htitle : title = "  " ++ text := (String.append_right_inj _).mp he
  rw [htitle, String.toList_append] at h
  exact h rfl

theorem endsAbove_linesAll {depth : Nat} {members : List (Tree μ)} {rest : List String}
    (hm : ∀ s ∈ leavesAll members, IsSourceTitle (b.shown s)) (h : EndsAbove depth rest) :
    EndsAbove (depth + 1) (linesAll b depth members ++ rest) := by
  cases members with
  | nil => exact h.succ
  | cons t others =>
    obtain ⟨below, hl⟩ := exists_lines b depth t
    have ht : t.IsTitled b := fun s hs => hm s (List.mem_append_left _ hs)
    rw [linesAll, hl, List.cons_append, List.cons_append]
    exact endsAbove_cons ht.title_head? _

/-! ### Reading the lines of a tree -/

/-- Trees with the same shape whose sources are shown in the same way. -/
abbrev ShownAlike (b : Behaviour μ) : Tree μ → Tree μ → Prop :=
  Alike fun s s' => b.shown s = b.shown s'

mutual

/-- The lines of a tree tell the tree, and what follows below it. -/
theorem lines_append_inj {depth : Nat} (t : Tree μ) {t' : Tree μ} {x y : List String}
    (ht : t.IsTitled b) (ht' : t'.IsTitled b) (hx : EndsAbove (depth + 1) x)
    (hy : EndsAbove (depth + 1) y) (h : lines b depth t ++ x = lines b depth t' ++ y) :
    ShownAlike b t t' ∧ x = y := by
  cases t with
  | leaf s =>
    have hs := ht s (List.mem_singleton_self s)
    cases t' with
    | leaf s' =>
      obtain ⟨hline, hrest⟩ := List.cons.inj h
      exact ⟨.leaf ((String.append_right_inj _).mp hline), hrest⟩
    | chain members' =>
      have hline := (List.cons.inj h).1
      exact absurd ((String.append_right_inj _).mp hline) hs.2
  | chain members =>
    cases t' with
    | leaf s' =>
      have hs := ht' s' (List.mem_singleton_self s')
      have hline := (List.cons.inj h).1
      exact absurd ((String.append_right_inj _).mp hline).symm hs.2
    | chain members' =>
      obtain ⟨-, hbelow⟩ := List.cons.inj h
      obtain ⟨hmembers, hrest⟩ := linesAll_append_inj members ht ht' hx hy hbelow
      exact ⟨.chain hmembers, hrest⟩

theorem linesAll_append_inj {depth : Nat} (members : List (Tree μ)) {members' : List (Tree μ)}
    {x y : List String} (hm : ∀ s ∈ leavesAll members, IsSourceTitle (b.shown s))
    (hm' : ∀ s ∈ leavesAll members', IsSourceTitle (b.shown s)) (hx : EndsAbove depth x)
    (hy : EndsAbove depth y) (h : linesAll b depth members ++ x = linesAll b depth members' ++ y) :
    List.Forall₂ (ShownAlike b) members members' ∧ x = y := by
  cases members with
  | nil =>
    cases members' with
    | nil => exact ⟨.nil, h⟩
    | cons t' others' =>
      -- what follows is not deep enough to be the line of a member
      obtain ⟨below, hl⟩ := exists_lines b depth t'
      rw [linesAll, linesAll, hl, List.nil_append, List.cons_append, List.cons_append] at h
      rw [h] at hx
      exact absurd rfl (hx _ rfl _)
  | cons t others =>
    obtain ⟨ht, hothers⟩ := List.forall_mem_append.mp hm
    cases members' with
    | nil =>
      obtain ⟨below, hl⟩ := exists_lines b depth t
      rw [linesAll, linesAll, hl, List.nil_append, List.cons_append, List.cons_append] at h
      rw [← h] at hy
      exact absurd rfl (hy _ rfl _)
    | cons t' others' =>
      obtain ⟨ht', hothers'⟩ := List.forall_mem_append.mp hm'
      rw [linesAll, linesAll, List.append_assoc, List.append_assoc] at h
      obtain ⟨hfirst, hrest⟩ := lines_append_inj t ht ht' (endsAbove_linesAll hothers hx)
        (endsAbove_linesAll hothers' hy) h
      obtain ⟨hall, hxy⟩ := linesAll_append_inj others hothers hothers' hx hy hrest
      exact ⟨.cons hfirst hall, hxy⟩

end

/-- Trees with the same lines have the same shape, and their sources are shown in the same way. -/
theorem shownAlike_of_lines {t t' : Tree μ} (ht : t.IsTitled b) (ht' : t'.IsTitled b) (depth : Nat)
    (h : lines b depth t = lines b depth t') : ShownAlike b t t' := by
  have hnil := congrArg (· ++ ([] : List String)) h
  exact (lines_append_inj t ht ht' (endsAbove_nil _) (endsAbove_nil _) hnil).1

/-! ### Relations on the sources -/

/-- Trees that are alike in one respect are so in another if their sources are. -/
theorem Alike.imp_of_mem {R S : μ → μ → Prop} {t t' : Tree μ} (h : Alike R t t')
    (hRS : ∀ s ∈ Tree.leaves t, ∀ s' ∈ Tree.leaves t', R s s' → S s s') : Alike S t t' := by
  induction t using Tree.inductionOn generalizing t' with
  | leaf s =>
    cases h with
    | @leaf _ s' hs =>
      exact .leaf (hRS s (List.mem_singleton_self s) s' (List.mem_singleton_self s') hs)
  | chain members ih =>
    cases h with
    | @chain _ members' hm =>
      refine .chain ?_
      replace hRS : ∀ m ∈ members, ∀ m' ∈ members', ∀ s ∈ Tree.leaves m,
          ∀ s' ∈ Tree.leaves m', R s s' → S s s' := fun m hm m' hm' s hs s' hs' =>
        hRS s (mem_leaves_chain.mpr ⟨m, hm, hs⟩) s' (mem_leaves_chain.mpr ⟨m', hm', hs'⟩)
      induction hm with
      | nil => exact .nil
      | @cons m m' rest rest' hmm' _ ihr =>
        refine .cons (ih m List.mem_cons_self hmm' ?_) (ihr ?_ ?_)
        · exact hRS m List.mem_cons_self m' List.mem_cons_self
        · exact fun m hm => ih m (List.mem_cons_of_mem _ hm)
        · exact fun m hm m' hm' => hRS m (List.mem_cons_of_mem _ hm) m' (List.mem_cons_of_mem _ hm')

end CloudCredentials.Tree
