import CloudCredentials.Provider.Tree
import CloudCredentials.Proofs.Deliveries

/-!
# Asking a tree of providers

What is true of asking each source is true of asking a tree of them: relations between worlds are
carried through the tree, credentials of a tree are those that one of its sources has handed out,
and each source is either left as it was or is as its own asking has left it.
-/

namespace CloudCredentials

/-! ### Sources that respect a relation -/

/-- A relation between a world and later ones that every source keeps when it is asked. -/
structure Behaviour.Respects {μ : Type} (b : Behaviour μ) (R : World → World → Prop) : Prop where
  refl : ∀ w, R w w
  trans : ∀ {w v u}, R w v → R v u → R w u
  record : ∀ w level channel text, R w (w.record level channel text)
  ask : ∀ s w, R w (b.ask s w).2.2

namespace Tree

variable {μ : Type}

/-! ### Induction -/

theorem inductionOn {P : Tree μ → Prop} (leaf : ∀ source, P (.leaf source))
    (chain : ∀ members, (∀ m ∈ members, P m) → P (.chain members)) (t : Tree μ) : P t :=
  match t with
  | .leaf source => leaf source
  | .chain members => chain members fun m _ => inductionOn leaf chain m

theorem leavesAll_eq_flatMap (members : List (Tree μ)) :
    leavesAll members = members.flatMap leaves := by
  induction members with
  | nil => rfl
  | cons t rest ih => simp only [leavesAll, ih, List.flatMap_cons]

theorem mem_leaves_chain {source : μ} {members : List (Tree μ)} :
    source ∈ leaves (.chain members) ↔ ∃ m ∈ members, source ∈ leaves m := by
  simp only [leaves, leavesAll_eq_flatMap, List.mem_flatMap]

/-! ### Actions on sources -/

/-- A source is as it was, or as an action has left it in a world between two others. -/
def Kept (f : μ → World → μ × World) (R : World → World → Prop) (sources : List μ) (w w' : World)
    (s : μ) : Prop :=
  s ∈ sources ∨ ∃ s₀ ∈ sources, ∃ v, R w v ∧ s = (f s₀ v).1 ∧ R (f s₀ v).2 w'

namespace Kept

variable {f : μ → World → μ × World} {R : World → World → Prop} {sources others : List μ}
  {w v w' : World} {s : μ}

theorem mono (h : Kept f R sources w w' s) (hs : ∀ x ∈ sources, x ∈ others) :
    Kept f R others w w' s := by
  rcases h with h | ⟨s₀, h₀, hk⟩
  · exact .inl (hs s h)
  · exact .inr ⟨s₀, hs s₀ h₀, hk⟩

theorem earlier (h : Kept f R sources v w' s) (trans : ∀ {w v u}, R w v → R v u → R w u)
    (hv : R w v) : Kept f R sources w w' s := by
  rcases h with h | ⟨s₀, h₀, u, hu, hk⟩
  · exact .inl h
  · exact .inr ⟨s₀, h₀, u, trans hv hu, hk⟩

theorem later (h : Kept f R sources w v s) (trans : ∀ {w v u}, R w v → R v u → R w u)
    (hv : R v w') : Kept f R sources w w' s := by
  rcases h with h | ⟨s₀, h₀, u, hu, he, hf⟩
  · exact .inl h
  · exact .inr ⟨s₀, h₀, u, hu, he, trans hf hv⟩

end Kept

def asking (b : Behaviour μ) (s : μ) (w : World) : μ × World := (b.ask s w).2

/-! ### One member of a chain -/

/-- Ask a member as a chain does: the attempt and its end are recorded. -/
def askMember (b : Behaviour μ) (t : Tree μ) (w : World) :
    Except Failure Credentials × Tree μ × World :=
  match ask b t (w.record .debug .providers ("Trying provider " ++ shown b t)) with
  | (.ok credentials, t, w) =>
    (.ok credentials, t, w.record .info .providers ("Got credentials from " ++ name b t))
  | (.error failure, t, w) =>
    (.error failure, t, w.record .debug .providers
      ("Provider " ++ name b t ++ " returned no credentials: " ++ failure.message))

theorem askFirst_cons (b : Behaviour μ) (t : Tree μ) (rest : List (Tree μ)) (w : World) :
    askFirst b (t :: rest) w =
      match askMember b t w with
      | (.ok credentials, t, w) => (.ok credentials, t :: rest, w)
      | (.error failure, t, w) =>
        let (answer, rest, w) := askFirst b rest w
        (answer.mapError ((name b t, failure) :: ·), t :: rest, w) := by
  rw [askFirst, askMember]
  rcases ask b t (w.record .debug .providers ("Trying provider " ++ shown b t)) with
    ⟨answer, t', w'⟩
  cases answer <;> rfl

/-- Members that follow others are asked once each of those has failed. -/
theorem askFirst_append (b : Behaviour μ) (members more : List (Tree μ)) (w : World) :
    askFirst b (members ++ more) w =
      match askFirst b members w with
      | (.ok credentials, members, w) => (.ok credentials, members ++ more, w)
      | (.error attempts, members, w) =>
        let (answer, more, w) := askFirst b more w
        (answer.mapError (attempts ++ ·), members ++ more, w) := by
  induction members generalizing w with
  | nil =>
    rw [List.nil_append, askFirst_nil]
    dsimp only
    rcases askFirst b more w with ⟨attempts | credentials, more', v⟩
    · rfl
    · rfl
  | cons t rest ih =>
    rw [List.cons_append, askFirst_cons, askFirst_cons]
    rcases askMember b t w with ⟨failure | credentials, t', v⟩
    · dsimp only
      rw [ih]
      rcases askFirst b rest v with ⟨attempts | credentials, rest', x⟩
      · dsimp only
        show _ = ((askFirst b more x).1.mapError ((name b t', failure) :: attempts ++ ·),
          t' :: rest' ++ (askFirst b more x).2.1, (askFirst b more x).2.2)
        rcases askFirst b more x with ⟨attempts' | credentials, more', y⟩
        · rfl
        · rfl
      · rfl
    · rfl

/-- A member is asked in the world with one more record, and one more follows its answer. -/
theorem askMember_eq (b : Behaviour μ) (t : Tree μ) (w : World) :
    ∃ text level text', askMember b t w =
      ((ask b t (w.record .debug .providers text)).1,
        (ask b t (w.record .debug .providers text)).2.1,
        (ask b t (w.record .debug .providers text)).2.2.record level .providers text') := by
  refine ⟨"Trying provider " ++ shown b t, ?_⟩
  unfold askMember
  rcases ask b t (w.record .debug .providers ("Trying provider " ++ shown b t)) with
    ⟨answer, t', w'⟩
  cases answer with
  | ok credentials => exact ⟨.info, _, rfl⟩
  | error failure => exact ⟨.debug, _, rfl⟩

/-! ### Relations between worlds -/

section Respects

variable {b : Behaviour μ} {R : World → World → Prop} (hR : b.Respects R)

include hR

theorem askMember_respects {t : Tree μ} (ht : ∀ w, R w (ask b t w).2.2) (w : World) :
    R w (askMember b t w).2.2 := by
  obtain ⟨text, level, text', he⟩ := askMember_eq b t w
  rw [he]
  exact hR.trans (hR.record ..) (hR.trans (ht _) (hR.record ..))

theorem askFirst_respects {members : List (Tree μ)}
    (hm : ∀ m ∈ members, ∀ w, R w (ask b m w).2.2) (w : World) :
    R w (askFirst b members w).2.2 := by
  induction members generalizing w with
  | nil => exact hR.refl w
  | cons t rest ih =>
    have ht := askMember_respects hR (hm t List.mem_cons_self) w
    rw [askFirst_cons]
    rcases ha : askMember b t w with ⟨answer, t', w'⟩
    rw [ha] at ht
    cases answer with
    | ok credentials => exact ht
    | error failure => exact hR.trans ht (ih (fun m h => hm m (List.mem_cons_of_mem _ h)) w')

theorem ask_respects (t : Tree μ) : ∀ w, R w (ask b t w).2.2 := by
  induction t using inductionOn with
  | leaf source => exact hR.ask source
  | chain members ih => exact askFirst_respects hR ih

/-! ### Where credentials come from -/

theorem askFirst_ok {members members' : List (Tree μ)} {w w' : World} {c : Credentials}
    (h : askFirst b members w = (.ok c, members', w')) :
    ∃ m ∈ members, ∃ v m' v', R w v ∧ ask b m v = (.ok c, m', v') ∧ v'.Logged w' := by
  induction members generalizing w members' with
  | nil => cases h
  | cons t rest ih =>
    obtain ⟨text, level, text', he⟩ := askMember_eq b t w
    rw [askFirst_cons, he] at h
    rcases ha : ask b t (w.record .debug .providers text) with ⟨answer, t', v'⟩
    rw [ha] at h
    have hv : R w (v'.record level .providers text') := by
      have ht := hR.trans (hR.record w .debug .providers text) (ask_respects hR t _)
      rw [ha] at ht
      exact hR.trans ht (hR.record ..)
    cases answer with
    | ok credentials =>
      cases h
      exact ⟨t, List.mem_cons_self, _, t', v', hR.record .., ha, (World.Logged.refl v').record ..⟩
    | error failure =>
      rcases hr : askFirst b rest (v'.record level .providers text') with ⟨answer, rest', w''⟩
      simp only [hr] at h
      cases answer with
      | error attempts => cases h
      | ok credentials =>
        cases h
        obtain ⟨m, hm, u, m', u', hu, hc, hl⟩ := ih hr
        exact ⟨m, List.mem_cons_of_mem _ hm, u, m', u', hR.trans hv hu, hc, hl⟩

/-- The credentials of a tree are those that one of its sources has handed out when it was asked;
nothing but records follows. -/
theorem ask_ok {t t' : Tree μ} {w w' : World} {c : Credentials}
    (h : ask b t w = (.ok c, t', w')) :
    ∃ s ∈ leaves t, ∃ v s' v', R w v ∧ b.ask s v = (.ok c, s', v') ∧ v'.Logged w' := by
  induction t using inductionOn generalizing t' w w' with
  | leaf source =>
    rcases ha : b.ask source w with ⟨answer, s', v'⟩
    simp only [ask, ha] at h
    cases h
    exact ⟨source, List.mem_singleton_self _, w, s', w', hR.refl w, ha, .refl w'⟩
  | chain members ih =>
    rcases ha : askFirst b members w with ⟨answer, members', v'⟩
    simp only [ask, ha] at h
    cases answer with
    | error attempts => cases h
    | ok credentials =>
      cases h
      obtain ⟨m, hm, v, m', u, hv, hc, hl⟩ := askFirst_ok hR ha
      obtain ⟨s, hs, x, s', x', hx, hsc, hlx⟩ := ih m hm hc
      refine ⟨s, mem_leaves_chain.mpr ⟨m, hm, hs⟩, x, s', x', hR.trans hv hx, hsc, ?_⟩
      obtain ⟨log, rfl⟩ := hlx
      obtain ⟨log', rfl⟩ := hl
      exact ⟨log', rfl⟩

/-! ### What becomes of the sources -/

theorem leaves_askFirst {members : List (Tree μ)}
    (hm : ∀ m ∈ members, ∀ w, ∀ s ∈ leaves (ask b m w).2.1,
      Kept (asking b) R (leaves m) w (ask b m w).2.2 s) (w : World) :
    ∀ s ∈ leavesAll (askFirst b members w).2.1,
      Kept (asking b) R (leavesAll members) w (askFirst b members w).2.2 s := by
  induction members generalizing w with
  | nil =>
    intro s hs
    cases hs
  | cons t rest ih =>
    have hfirst : ∀ s ∈ leaves (askMember b t w).2.1,
        Kept (asking b) R (leavesAll (t :: rest)) w (askMember b t w).2.2 s := by
      intro s hs
      obtain ⟨text, level, text', he⟩ := askMember_eq b t w
      rw [he] at hs ⊢
      have hk := hm t List.mem_cons_self _ s hs
      exact ((hk.earlier hR.trans (hR.record ..)).later hR.trans (hR.record ..)).mono
        fun x hx => List.mem_append_left _ hx
    have hworld := askMember_respects hR (ask_respects hR t) w
    intro s hs
    rw [askFirst_cons] at hs ⊢
    rcases ha : askMember b t w with ⟨answer, t', w'⟩
    rw [ha] at hs hfirst hworld
    cases answer with
    | ok credentials =>
      rcases List.mem_append.mp hs with hs | hs
      · exact hfirst s hs
      · exact .inl (List.mem_append_right _ hs)
    | error failure =>
      rcases List.mem_append.mp hs with hs | hs
      · exact (hfirst s hs).later hR.trans (askFirst_respects hR (fun m _ => ask_respects hR m) w')
      · have hk := ih (fun m h => hm m (List.mem_cons_of_mem _ h)) w' s hs
        exact (hk.earlier hR.trans hworld).mono fun x hx => List.mem_append_right _ hx

/-- After a tree was asked, each of its sources is as it was or as its own asking has left it. -/
theorem leaves_ask (t : Tree μ) : ∀ w, ∀ s ∈ leaves (ask b t w).2.1,
    Kept (asking b) R (leaves t) w (ask b t w).2.2 s := by
  induction t using inductionOn with
  | leaf source =>
    intro w s hs
    exact .inr ⟨source, List.mem_singleton_self _, w, hR.refl w, List.mem_singleton.mp hs,
      hR.refl _⟩
  | chain members ih => exact leaves_askFirst hR ih

end Respects

end Tree

end CloudCredentials
