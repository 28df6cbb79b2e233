import CloudCredentials.Proofs.ProviderRun
import CloudCredentials.Proofs.SessionCache

/-!
# No source logs an error

Whatever comes of asking a provider, no record of an error is logged on the way: a look, a failed
attempt and a use of what is held are recorded at lower levels, if at all. So the only such record
in a session is the one that its validation makes.
-/

namespace CloudCredentials

/-! ### Worlds without new errors -/

/-- The records that were added are none of errors. -/
def World.Calm (w v : World) : Prop :=
  ∃ added, v.log = w.log ++ added ∧ ∀ r ∈ added, r.level ≠ .error

namespace World.Calm

variable {w v u : World}

theorem of_log (h : v.log = w.log) : w.Calm v :=
  ⟨[], h.trans (List.append_nil _).symm, nofun⟩

theorem refl (w : World) : w.Calm w := of_log rfl

theorem trans (h : w.Calm v) (h' : v.Calm u) : w.Calm u := by
  obtain ⟨added, hv, hadded⟩ := h
  obtain ⟨added', hu, hadded'⟩ := h'
  refine ⟨added ++ added', ?_, List.forall_mem_append.mpr ⟨hadded, hadded'⟩⟩
  rw [hu, hv, List.append_assoc]

theorem record (h : w.Calm v) {level : Level} (hl : level ≠ .error) (channel : Channel)
    (text : String) : w.Calm (v.record level channel text) :=
  h.trans ⟨[⟨level, channel, text⟩], rfl, List.forall_mem_singleton.mpr hl⟩

end World.Calm

open World

/-! ### Sources -/

theorem InstanceProfile.query_log (w : World) : (query w).2.log = w.log := by
  unfold query
  dsimp only
  cases (w.metadata.next (.ok {})).1 <;> rfl

theorem InstanceProfile.load_calm (w : World) : w.Calm (load w).2 := by
  have hq := query_log w
  unfold load
  rcases hx : query w with ⟨failure | fields, v⟩
  · rw [hx] at hq
    exact .of_log hq
  · rw [hx] at hq
    dsimp only
    split <;> exact .of_log hq

theorem InstanceProfile.use_calm (l : Lease) (w : World) : w.Calm (use l w).2.2 := by
  refine Lease.use_respects Calm.refl _ _ (fun w => ?_) l w
  have hq := query_log w
  unfold fetch
  rcases hx : query w with ⟨failure | fields, v⟩
  · rw [hx] at hq
    exact .of_log hq
  · rw [hx] at hq
    exact .of_log hq

theorem AssumedRole.ask_calm (r : AssumedRole) (client : World → Except Failure Client)
    (w : World) : w.Calm (r.ask client w).2 := by
  unfold ask
  split
  · exact .refl w
  · split
    · exact .refl w
    · unfold request
      dsimp only
      cases (w.roles.next (.ok {})).1 <;> exact .of_log rfl

theorem AssumedRole.use_calm (r : AssumedRole) (client : World → Except Failure Client)
    (w : World) : w.Calm (r.use client w).2.2 := by
  refine Lease.use_respects (R := fun s s' : Keeping => s.2.Calm s'.2) (fun s => .refl s.2) _ _
    (fun s => ?_) r.lease (r.stored, w)
  have ha := r.ask_calm client s.2
  unfold fetch
  split
  · exact .refl s.2
  · exact .refl s.2
  · split
    · next hasked =>
      rw [hasked] at ha
      exact ha
    · next hasked =>
      rw [hasked] at ha
      exact ha

theorem NamedProfile.load_calm (p : NamedProfile) (w : World) : w.Calm (p.load w).2 := by
  have found (origin : String) : w.Calm (p.recordFound origin w) :=
    (Calm.refl w).record (by decide) ..
  unfold load
  cases p.path with
  | some path =>
    dsimp only [loadFrom]
    split
    · split
      · exact .refl w
      · exact .refl w
      · exact found _
    · exact .refl w
  | none =>
    dsimp only [loadDefault]
    split
    · split
      · exact .refl w
      · exact found _
      · split
        · exact .refl w
        · exact .refl w
        · exact found _
    · exact .refl w

theorem Standard.lookInPlaces_calm (a : ActiveProfile) (w : World) :
    w.Calm (lookInPlaces a w).2.2 := by
  unfold lookInPlaces
  split
  · exact .refl w
  · split
    · exact .refl w
    · exact .refl w
    · exact InstanceProfile.load_calm w

theorem Standard.load_calm (a : ActiveProfile) (w : World) : w.Calm (load a w).2.2 := by
  have hcall (rest : Script (Option Look)) : w.Calm { w.call .look with looks := rest } :=
    .of_log rfl
  unfold load
  dsimp only
  split
  · exact (hcall _).trans (lookInPlaces_calm _ _)
  · exact hcall _

theorem Standard.use_calm (found : StandardKeys) (w : World) : w.Calm (use found w).2.2 := by
  cases found with
  | fixed keys => exact .refl w
  | environment lease => exact Lease.use_respects Calm.refl _ _ (fun w => .refl w) lease w
  | role role view => exact role.use_calm (client view) w
  | machine lease => exact InstanceProfile.use_calm lease w
  | other method lease => exact Lease.use_respects Calm.refl _ _ (fun _ => .of_log rfl) lease w

theorem Source.ask_calm (s : Source) (w : World) : w.Calm (s.ask w).2.2 := by
  have looking (shown : String) (w : World) : w.Calm (Backed.looking shown w) :=
    (Calm.refl w).record (by decide) ..
  cases s with
  | fixed keys => exact .refl w
  | instanceProfile state =>
    exact Backed.ask_respects Calm.trans (looking _) (fun _ w => InstanceProfile.load_calm w)
      InstanceProfile.use_calm
  | profile state =>
    exact Backed.ask_respects Calm.trans (looking _) NamedProfile.load_calm fun _ w => .refl w
  | webIdentity state refresher =>
    exact Backed.ask_respects Calm.trans (looking _) (fun _ w => .refl w) fun r w => r.use_calm _ w
  | standard state =>
    exact Backed.ask_respects Calm.trans (looking _) Standard.load_calm Standard.use_calm
  | scripted name answers => exact .of_log rfl

/-! ### Trees of sources -/

namespace Tree

variable {μ : Type} {b : Behaviour μ}

theorem askMember_calm {t : Tree μ} (ht : ∀ w, World.Calm w (ask b t w).2.2) (w : World) :
    w.Calm (askMember b t w).2.2 := by
  have htried := ht (w.record .debug .providers ("Trying provider " ++ shown b t))
  have hstart : w.Calm (w.record .debug .providers ("Trying provider " ++ shown b t)) :=
    (Calm.refl w).record (by decide) ..
  have ended := hstart.trans htried
  have hdebug : Level.debug ≠ .error := by decide
  have hinfo : Level.info ≠ .error := by decide
  unfold askMember
  rcases ha : ask b t (w.record .debug .providers ("Trying provider " ++ shown b t)) with
    ⟨failure | credentials, t', v⟩
  · rw [ha] at ended
    exact ended.record hdebug ..
  · rw [ha] at ended
    exact ended.record hinfo ..

theorem ask_calm (hb : ∀ s w, World.Calm w (b.ask s w).2.2) (t : Tree μ) :
    ∀ w, World.Calm w (ask b t w).2.2 := by
  induction t using inductionOn with
  | leaf source => exact hb source
  | chain members ih =>
    intro w
    have hall : w.Calm (askFirst b members w).2.2 := by
      induction members generalizing w with
      | nil => exact .refl w
      | cons t rest ihrest =>
        have ht := askMember_calm (ih t List.mem_cons_self) w
        rw [askFirst_cons]
        rcases ha : askMember b t w with ⟨failure | credentials, t', v⟩
        · rw [ha] at ht
          exact ht.trans (ihrest (fun m hm => ih m (List.mem_cons_of_mem _ hm)) v)
        · rw [ha] at ht
          exact ht
    exact hall

end Tree

theorem Provider.resolve_calm (p : Provider) (w : World) : w.Calm (p.resolve w).2.2 :=
  Tree.ask_calm Source.ask_calm p w

/-! ### Sessions -/

namespace Session

variable {σ : Type} {R : σ × World → σ × World → Prop}

/-- What asking the provider does to it and its world, and what a request does to the world, a
request for the account does. -/
theorem account_respects (refl : ∀ x, R x x) {ask : Asking σ} (hask : ∀ x, R x (ask x.1 x.2).2)
    (trans : ∀ {x y z}, R x y → R y z → R x z)
    (request : ∀ p client w, R (p, w) (p, (requestIdentity client w).2)) (s : Session) (p : σ)
    (w : World) : R (p, w) (s.account ask p w).2.2 := by
  unfold account
  rcases clientPlan s w with ⟨failure | plan, s₁⟩
  · exact refl _
  dsimp only
  have hl := load_respects refl hask s₁ p w
  rcases hloaded : s₁.load ask p w with ⟨failure | held, s₂, q, v⟩
  · rw [hloaded] at hl
    exact hl
  rw [hloaded] at hl
  dsimp only
  rcases plan.endpoint v with failure | name
  · exact hl
  dsimp only
  have hu := useHeld_respects refl hask held s₂ q v
  rcases hused : useHeld ask held s₂ q v with ⟨failure | keys, s₃, q', u⟩
  · rw [hused] at hu
    exact trans hl hu
  · rw [hused] at hu
    exact trans (trans hl hu) (request q' _ u)

theorem requestIdentity_log (client : Client) (w : World) :
    (requestIdentity client w).2.log = w.log := by
  unfold requestIdentity
  dsimp only
  cases (w.identity.next (.ok {})).1 <;> rfl

theorem account_calm (s : Session) (p : Provider) (w : World) :
    w.Calm (s.account Provider.resolve p w).2.2.2 :=
  account_respects (R := fun x y : Provider × World => x.2.Calm y.2) (fun x => .refl x.2)
    (fun x => Provider.resolve_calm x.1 x.2) Calm.trans
    (fun _ client w => .of_log (requestIdentity_log client w)) s p w

end Session

end CloudCredentials
