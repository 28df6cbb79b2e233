import CloudCredentials.Background
import CloudCredentials.Proofs.Likeness
import CloudCredentials.Proofs.TreeAct

/-!
# Trees that are alike

Trees of the same shape whose sources are related. They have the same names and descriptions, and
when related sources answer alike in related worlds, then so do the trees, which includes the
failures that a chain collects. The relations are parameters: on credentials, on sources and on
worlds.
-/

namespace CloudCredentials

variable {C : Credentials → Credentials → Prop} {W : World → World → Prop} {w w' : World}

/-! ### Sources -/

/-- Related sources have the same names and are shown in the same way. -/
structure Behaviour.Shows {μ : Type} (b : Behaviour μ) (R : μ → μ → Prop) : Prop where
  name : ∀ {s s'}, R s s' → b.name s = b.name s'
  shown : ∀ {s s'}, R s s' → b.shown s = b.shown s'

/-- Asking related sources in related worlds ends alike and leaves them related. -/
structure Behaviour.Keeps {μ : Type} (b : Behaviour μ) (C : Credentials → Credentials → Prop)
    (R : μ → μ → Prop) (W : World → World → Prop) : Prop extends b.Shows R where
  record : ∀ {w w'} level channel text, W w w' →
    W (w.record level channel text) (w'.record level channel text)
  ask : ∀ {s s' w w'}, R s s' → W w w' → Ends C R W (b.ask s w) (b.ask s' w')

/-- A round of a background task ends alike when asking does. -/
theorem Background.tick_alike {σ : Type} {S : σ → σ → Prop}
    (record : ∀ {w w'} level channel text, W w w' →
      W (w.record level channel text) (w'.record level channel text))
    {ask ask' : σ → World → Except Failure Credentials × σ × World} {p p' : σ}
    (ha : Ends C S W (ask p w) (ask' p' w')) :
    Ends Eq S W (tick ask p w) (tick ask' p' w') := by
  obtain ⟨hc, hs, hw⟩ := ha
  unfold tick
  generalize ask p w = r at hc hs hw
  generalize ask' p' w' = r' at hc hs hw
  obtain ⟨answer, q, v⟩ := r
  obtain ⟨answer', q', v'⟩ := r'
  dsimp only at hs hw
  cases hc with
  | ok hc => exact ⟨.ok rfl, hs, hw⟩
  | error failure =>
    dsimp only
    split
    · exact ⟨.ok rfl, hs, record _ _ _ hw⟩
    · exact ⟨.error _, hs, hw⟩

/-! ### Trees -/

namespace Tree

variable {μ : Type} {R : μ → μ → Prop} {t t' : Tree μ} {members members' : List (Tree μ)}

/-- Trees of the same shape with related sources. -/
inductive Alike (R : μ → μ → Prop) : Tree μ → Tree μ → Prop
  | leaf {s s' : μ} (h : R s s') : Alike R (.leaf s) (.leaf s')
  | chain {members members' : List (Tree μ)} (h : List.Forall₂ (Alike R) members members') :
    Alike R (.chain members) (.chain members')

theorem Alike.inductionOn {P : Tree μ → Tree μ → Prop} (h : Alike R t t')
    (leaf : ∀ {s s'}, R s s' → P (.leaf s) (.leaf s'))
    (chain : ∀ {members members'}, List.Forall₂ (fun m m' => Alike R m m' ∧ P m m') members
      members' → P (.chain members) (.chain members')) : P t t' := by
  induction t using Tree.inductionOn generalizing t' with
  | leaf s =>
    cases h with
    | leaf h => exact leaf h
  | chain members ih =>
    cases h with
    | chain h =>
      refine chain ?_
      induction h with
      | nil => exact .nil
      | cons hm _ ihr =>
        exact .cons ⟨hm, ih _ List.mem_cons_self hm⟩
          (ihr fun m hmem _ h => ih m (List.mem_cons_of_mem _ hmem) h)

theorem Alike.refl (h : ∀ s ∈ Tree.leaves t, R s s) : Alike R t t := by
  induction t using Tree.inductionOn with
  | leaf s => exact .leaf (h s (List.mem_singleton_self s))
  | chain members ih =>
    refine .chain (List.forall₂_same.mpr fun m hm => ih m hm fun s hs => ?_)
    exact h s (mem_leaves_chain.mpr ⟨m, hm, hs⟩)

theorem Alike.leaves (h : Alike R t t') : List.Forall₂ R (leaves t) (Tree.leaves t') := by
  refine h.inductionOn (P := fun t t' => List.Forall₂ R t.leaves t'.leaves) ?_ ?_
  · intro s s' hs
    exact .cons hs .nil
  · intro members members' hm
    simp only [Tree.leaves]
    induction hm with
    | nil => exact .nil
    | cons hm _ ih => exact List.rel_append hm.2 ih

section Shown

variable {b : Behaviour μ} (hb : b.Shows R)

include hb

theorem name_alike (ht : Alike R t t') : name b t = name b t' := by
  cases ht with
  | leaf hs => exact hb.name hs
  | chain _ => rfl

theorem shown_alike (ht : Alike R t t') : shown b t = shown b t' := by
  refine ht.inductionOn (P := fun t t' => shown b t = shown b t') hb.shown ?_
  intro members members' hm
  have hall : shownAll b members = shownAll b members' := by
    induction hm with
    | nil => rfl
    | cons hm _ ih => simp only [shownAll, hm.2, ih]
  simp only [shown, hall]

theorem lines_alike (ht : Alike R t t') (depth : Nat) : lines b depth t = lines b depth t' := by
  refine ht.inductionOn (P := fun t t' => ∀ depth, lines b depth t = lines b depth t') ?_ ?_ depth
  · intro s s' hs depth
    simp only [lines, hb.shown hs]
  · intro members members' hm depth
    have hall : linesAll b (depth + 1) members = linesAll b (depth + 1) members' := by
      induction hm with
      | nil => rfl
      | cons hm _ ih => simp only [linesAll, hm.2, ih]
    simp only [lines, hall]

end Shown

section Asked

variable {b : Behaviour μ} (hb : b.Keeps C R W)

include hb

theorem askMember_alike (ht : Alike R t t')
    (ha : ∀ {w w'}, W w w' →
      Ends C (Alike R) W (ask b t w) (ask b t' w'))
    (h : W w w') :
    Ends C (Alike R) W (askMember b t w)
      (askMember b t' w') := by
  obtain ⟨hc, ht', hw⟩ := ha (hb.record .debug .providers ("Trying provider " ++ shown b t') h)
  unfold askMember
  rw [shown_alike hb.toShows ht]
  generalize ask b t (w.record .debug .providers ("Trying provider " ++ shown b t')) = r
    at hc ht' hw
  generalize ask b t' (w'.record .debug .providers ("Trying provider " ++ shown b t')) = r'
    at hc ht' hw
  obtain ⟨answer, q, v⟩ := r
  obtain ⟨answer', q', v'⟩ := r'
  dsimp only at ht' hw
  cases hc with
  | ok hc =>
    dsimp only
    rw [name_alike hb.toShows ht']
    exact ⟨.ok hc, ht', hb.record _ _ _ hw⟩
  | error failure =>
    dsimp only
    rw [name_alike hb.toShows ht']
    exact ⟨.error _, ht', hb.record _ _ _ hw⟩

theorem askFirst_alike
    (hm : List.Forall₂ (fun m m' => Alike R m m' ∧ ∀ {w w'}, W w w' →
      Ends C (Alike R) W (ask b m w) (ask b m' w'))
      members members') (h : W w w') :
    Ends C (List.Forall₂ (Alike R)) W
      (askFirst b members w) (askFirst b members' w') := by
  induction hm generalizing w w' with
  | nil => exact ⟨.error _, .nil, h⟩
  | @cons t t' rest rest' ht hrest ih =>
    obtain ⟨hc, ht', hw⟩ := askMember_alike hb ht.1 ht.2 h
    rw [askFirst_cons, askFirst_cons]
    generalize askMember b t w = r at hc ht' hw
    generalize askMember b t' w' = r' at hc ht' hw
    obtain ⟨answer, q, v⟩ := r
    obtain ⟨answer', q', v'⟩ := r'
    dsimp only at ht' hw
    cases hc with
    | ok hc => exact ⟨.ok hc, .cons ht' (hrest.imp fun _ _ h => h.1), hw⟩
    | error failure =>
      obtain ⟨hr, hrest, hv⟩ := ih hw
      dsimp only
      rw [name_alike hb.toShows ht']
      exact ⟨hr.mapError, .cons ht' hrest, hv⟩

theorem ask_alike (ht : Alike R t t') (h : W w w') :
    Ends C (Alike R) W (ask b t w) (ask b t' w') := by
  refine ht.inductionOn (P := fun t t' => ∀ {w w'}, W w w' →
    Ends C (Alike R) W (ask b t w) (ask b t' w')) ?_ ?_ h
  · intro s s' hs w w' h
    obtain ⟨hc, hs, hw⟩ := hb.ask hs h
    exact ⟨hc, .leaf hs, hw⟩
  · intro members members' hm w w' h
    obtain ⟨hc, hm, hw⟩ := askFirst_alike hb hm h
    exact ⟨hc.mapError, .chain hm, hw⟩

end Asked

section Acting

variable {f : μ → World → μ × World} (hf : ∀ {s s' w w'}, R s s' → W w w' →
  R (f s w).1 (f s' w').1 ∧ W (f s w).2 (f s' w').2)

include hf

theorem mapLeaves_alike (ht : Alike R t t') (h : W w w') :
    Alike R (mapLeaves f t w).1 (mapLeaves f t' w').1 ∧
      W (mapLeaves f t w).2 (mapLeaves f t' w').2 := by
  refine ht.inductionOn (P := fun t t' => ∀ {w w'}, W w w' →
    Alike R (mapLeaves f t w).1 (mapLeaves f t' w').1 ∧
      W (mapLeaves f t w).2 (mapLeaves f t' w').2) ?_ ?_ h
  · intro s s' hs w w' h
    obtain ⟨hs, hw⟩ := hf hs h
    exact ⟨.leaf hs, hw⟩
  · intro members members' hm w w' h
    have hall : List.Forall₂ (Alike R) (mapAll f members w).1 (mapAll f members' w').1 ∧
        W (mapAll f members w).2 (mapAll f members' w').2 := by
      induction hm generalizing w w' with
      | nil => exact ⟨.nil, h⟩
      | cons hm _ ih =>
        obtain ⟨ht, hw⟩ := hm.2 h
        obtain ⟨hrest, hv⟩ := ih hw
        exact ⟨.cons ht hrest, hv⟩
    exact ⟨.chain hall.1, hall.2⟩

theorem actAt_alike (place : Nat) (ht : Alike R t t') (h : W w w') :
    Alike R (actAt f place t w).1 (actAt f place t' w').1 ∧
      W (actAt f place t w).2 (actAt f place t' w').2 := by
  refine ht.inductionOn (P := fun t t' => ∀ place,
    Alike R (actAt f place t w).1 (actAt f place t' w').1 ∧
      W (actAt f place t w).2 (actAt f place t' w').2) ?_ ?_ place
  · intro s s' hs place
    simp only [actAt]
    split
    · obtain ⟨hs, hw⟩ := hf hs h
      exact ⟨.leaf hs, hw⟩
    · exact ⟨.leaf hs, h⟩
  · intro members members' hm place
    have hall : List.Forall₂ (Alike R) (actAtAll f place members w).1
        (actAtAll f place members' w').1 ∧
        W (actAtAll f place members w).2 (actAtAll f place members' w').2 := by
      induction hm generalizing place with
      | nil => exact ⟨.nil, h⟩
      | @cons t t' rest rest' ht hrest ih =>
        have hl : t.leaves.length = t'.leaves.length := ht.1.leaves.length_eq
        simp only [actAtAll, hl]
        split
        · exact ⟨.cons (ht.2 place).1 (hrest.imp fun _ _ h => h.1), (ht.2 place).2⟩
        · obtain ⟨hrest, hw⟩ := ih (place - t'.leaves.length)
          exact ⟨.cons ht.1 hrest, hw⟩
    exact ⟨.chain hall.1, hall.2⟩

end Acting

end Tree

end CloudCredentials
