import CloudCredentials.Proofs.Deliveries
import CloudCredentials.Provider.NamedProfile
import Mathlib.Data.List.Forall2

/-!
# Worlds that are alike

Two worlds, two sources or two answers are alike when they agree in everything but secrets, and
their secrets are alike. Which secrets are alike is a parameter: with equality, alike worlds differ
in what has been called and logged before at most.

Whatever is done in two worlds is compared with where they started, so that worlds with different
pasts can be alike.
-/

namespace CloudCredentials

/-- Which secrets are alike, and which files are open, which means that they hold none. -/
structure Likeness where
  secret : Datum → Datum → Prop
  isOpen : String → Prop
  refl : ∀ d, secret d d
  isEmpty : ∀ {d d'}, secret d d' → d.isEmpty = d'.isEmpty

/-! ### Answers -/

/-- Both fail in the same way, or both have results that are related. -/
inductive Both {ε α β : Type} (R : α → β → Prop) : Except ε α → Except ε β → Prop
  | error (e : ε) : Both R (.error e) (.error e)
  | ok {a : α} {b : β} (h : R a b) : Both R (.ok a) (.ok b)

namespace Both

variable {ε α β γ δ : Type} {R : α → β → Prop} {S : γ → δ → Prop} {r : Except ε α}
  {r' : Except ε β}

theorem imp {S : α → β → Prop} (h : Both R r r') (hRS : ∀ {a b}, R a b → S a b) :
    Both S r r' := by
  cases h with
  | error e => exact .error e
  | ok h => exact .ok (hRS h)

theorem map {f : α → γ} {g : β → δ} (h : Both R r r') (hfg : ∀ {a b}, R a b → S (f a) (g b)) :
    Both S (r.map f) (r'.map g) := by
  cases h with
  | error e => exact .error e
  | ok h => exact .ok (hfg h)

theorem bind {f : α → Except ε γ} {g : β → Except ε δ} (h : Both R r r')
    (hfg : ∀ {a b}, R a b → Both S (f a) (g b)) : Both S (r.bind f) (r'.bind g) := by
  cases h with
  | error e => exact .error e
  | ok h => exact hfg h

theorem mapError {η : Type} {f : ε → η} (h : Both R r r') :
    Both R (r.mapError f) (r'.mapError f) := by
  cases h with
  | error e => exact .error (f e)
  | ok h => exact .ok h

theorem refl {R : α → α → Prop} (hR : ∀ a, R a a) (r : Except ε α) : Both R r r := by
  cases r with
  | error e => exact .error e
  | ok a => exact .ok (hR a)

theorem eq {r r' : Except ε α} (h : Both Eq r r') : r = r' := by
  cases h with
  | error e => rfl
  | ok h => rw [h]

end Both

/-- Two steps end alike: their answers, and the states and the worlds that they leave, are
related. -/
structure Ends {ε α β σ τ ω ω' : Type} (R : α → β → Prop) (S : σ → τ → Prop) (T : ω → ω' → Prop)
    (r : Except ε α × σ × ω) (r' : Except ε β × τ × ω') : Prop where
  answer : Both R r.1 r'.1
  state : S r.2.1 r'.2.1
  world : T r.2.2 r'.2.2

section Rel

variable {α β : Type} {R S : α → β → Prop} {a : Option α} {b : Option β}

theorem isNone_of_rel (h : Option.Rel R a b) : a.isNone = b.isNone := by
  cases h <;> rfl

theorem rel_imp (h : Option.Rel R a b) (hRS : ∀ {a b}, R a b → S a b) : Option.Rel S a b := by
  cases h with
  | none => exact .none
  | some h => exact .some (hRS h)

theorem rel_map {γ δ : Type} {T : γ → δ → Prop} {f : α → γ} {g : β → δ} (h : Option.Rel R a b)
    (hfg : ∀ {a b}, R a b → T (f a) (g b)) : Option.Rel T (a.map f) (b.map g) := by
  cases h with
  | none => exact .none
  | some h => exact .some (hfg h)

theorem rel_getD {x : α} {y : β} (h : Option.Rel R a b) (hd : R x y) :
    R (a.getD x) (b.getD y) := by
  cases h with
  | none => exact hd
  | some h => exact h

theorem rel_refl {R : α → α → Prop} (hR : ∀ a, R a a) (a : Option α) : Option.Rel R a a := by
  cases a with
  | none => exact .none
  | some a => exact .some (hR a)

theorem eq_of_rel {a b : Option α} (h : Option.Rel Eq a b) : a = b := by
  cases h with
  | none => rfl
  | some h => rw [h]

end Rel

/-! ### Fields by name -/

/-- The same names in the same order, each with related values. -/
def Fields {κ α β : Type} (R : κ → α → β → Prop) (m : List (κ × α)) (m' : List (κ × β)) : Prop :=
  List.Forall₂ (fun e e' => e.1 = e'.1 ∧ R e.1 e.2 e'.2) m m'

theorem Fields.lookup {κ α β : Type} [BEq κ] [LawfulBEq κ] {R : κ → α → β → Prop} {m : List (κ × α)}
    {m' : List (κ × β)} (h : Fields R m m') (name : κ) :
    Option.Rel (R name) (m.lookup name) (m'.lookup name) := by
  induction h with
  | nil => exact .none
  | @cons e e' rest rest' he _ ih =>
    obtain ⟨n, a⟩ := e
    obtain ⟨n', b⟩ := e'
    obtain ⟨rfl, hab⟩ : n = n' ∧ R n a b := he
    rw [List.lookup_cons, List.lookup_cons]
    by_cases hn : name = n
    · subst hn
      simpa using Option.Rel.some hab
    · have hb : (name == n) = false := by simpa using hn
      simpa [hb] using ih

theorem Fields.refl {κ α : Type} {R : κ → α → α → Prop} {m : List (κ × α)}
    (h : ∀ e ∈ m, R e.1 e.2 e.2) : Fields R m m :=
  List.forall₂_same.mpr fun e he => ⟨rfl, h e he⟩

variable (L : Likeness)

/-- Fields that agree but for some names, under which there are secrets. -/
def Likeness.Field (secrets : List String) (name : String) (d d' : Datum) : Prop :=
  if name ∈ secrets then L.secret d d' else d = d'

section Named

variable {L} {secrets : List String} {m m' : List (String × Datum)} {name : String}

theorem Likeness.Field.eq {d d' : Datum} (h : L.Field secrets name d d') (hn : name ∉ secrets) :
    d = d' := by
  rwa [Likeness.Field, if_neg hn] at h

theorem Likeness.Field.secret {d d' : Datum} (h : L.Field secrets name d d')
    (hn : name ∈ secrets) : L.secret d d' := by
  rwa [Likeness.Field, if_pos hn] at h

theorem Likeness.Field.of_eq (d : Datum) : L.Field secrets name d d := by
  unfold Likeness.Field
  split
  · exact L.refl d
  · rfl

theorem Fields.lookup_eq (h : Fields (L.Field secrets) m m') (hn : name ∉ secrets) :
    m.lookup name = m'.lookup name :=
  eq_of_rel (rel_imp (h.lookup name) fun hd => hd.eq hn)

theorem Fields.lookup_secret (h : Fields (L.Field secrets) m m') (hn : name ∈ secrets) :
    Option.Rel L.secret (m.lookup name) (m'.lookup name) :=
  rel_imp (h.lookup name) fun hd => hd.secret hn

end Named

/-! ### Keys and what is made of them -/

structure Keys.Alike (k k' : Keys) : Prop where
  accessKey : k.accessKey = k'.accessKey
  secretKey : L.secret k.secretKey k'.secretKey
  token : L.secret k.token k'.token

structure Credentials.Alike (c c' : Credentials) : Prop where
  keys : c.keys.Alike L c'.keys
  expiration : c.expiration = c'.expiration
  provider : c.provider = c'.provider

structure Delivery.Alike (d d' : Delivery) : Prop where
  accessKey : d.accessKey = d'.accessKey
  secretKey : Option.Rel L.secret d.secretKey d'.secretKey
  token : Option.Rel L.secret d.token d'.token
  expiry : d.expiry = d'.expiry

structure Lease.Alike (l l' : Lease) : Prop where
  keys : Option.Rel (Keys.Alike L) l.keys l'.keys
  expiry : l.expiry = l'.expiry

/-- The names of the secrets in what the metadata service answers. -/
def metadataSecrets : List String := ["secret_key", "token"]

structure MetadataAnswer.Alike (a a' : MetadataAnswer) : Prop where
  fields : Fields (L.Field metadataSecrets) a.fields a'.fields
  expiresIn : a.expiresIn = a'.expiresIn

structure RoleKeys.Alike (k k' : RoleKeys) : Prop where
  accessKey : k.accessKey = k'.accessKey
  secretKey : Option.Rel L.secret k.secretKey k'.secretKey
  token : Option.Rel L.secret k.token k'.token
  expiry : k.expiry = k'.expiry

def RoleAnswer.Alike (a a' : RoleAnswer) : Prop := Option.Rel (RoleKeys.Alike L) a.keys a'.keys

/-- Keys of the same kind that were found elsewhere. -/
inductive Found.Alike : Found → Found → Prop
  | fixed {k k' : Keys} (h : k.Alike L k') : Alike (.fixed k) (.fixed k')
  | leased (method : String) {l l' : Lease} (h : l.Alike L l') :
    Alike (.leased method l) (.leased method l')

/-- Looks that end alike, or are left to the described places both. -/
def Look.Alike : Option Look → Option Look → Prop :=
  Option.Rel (Both (Option.Rel (Found.Alike L)))

variable {L}

theorem Keys.Alike.refl (k : Keys) : k.Alike L k := ⟨rfl, L.refl _, L.refl _⟩

theorem Keys.Alike.isComplete {k k' : Keys} (h : k.Alike L k') : k.isComplete = k'.isComplete := by
  simp only [Keys.isComplete, h.accessKey, L.isEmpty h.secretKey]

theorem RoleKeys.Alike.refl (k : RoleKeys) : k.Alike L k :=
  ⟨rfl, rel_refl L.refl _, rel_refl L.refl _, rfl⟩

theorem RoleAnswer.Alike.refl (a : RoleAnswer) : a.Alike L a := rel_refl RoleKeys.Alike.refl a.keys

theorem Delivery.Alike.refl (d : Delivery) : d.Alike L d :=
  ⟨rfl, rel_refl L.refl _, rel_refl L.refl _, rfl⟩

theorem Lease.Alike.refl (l : Lease) : l.Alike L l := ⟨rel_refl Keys.Alike.refl l.keys, rfl⟩

theorem Found.Alike.refl (found : Found) : found.Alike L found := by
  cases found with
  | fixed keys => exact .fixed (.refl keys)
  | leased method lease => exact .leased method (.refl lease)

theorem Look.Alike.refl (look : Option Look) : Look.Alike L look look :=
  rel_refl (Both.refl (rel_refl Found.Alike.refl)) look

theorem Delivery.Alike.complete {k k' : Keys} (h : k.Alike L k') (e : ExpiryField) :
    (Delivery.complete k e).Alike L (Delivery.complete k' e) :=
  ⟨congrArg some h.accessKey, .some h.secretKey, .some h.token, rfl⟩

theorem Delivery.Alike.ofFields {m m' : List (String × Datum)}
    (h : Fields (L.Field metadataSecrets) m m') :
    (Delivery.ofFields m).Alike L (Delivery.ofFields m') := by
  have he : m.lookup "expiry_time" = m'.lookup "expiry_time" := h.lookup_eq (by decide)
  refine ⟨h.lookup_eq (by decide), h.lookup_secret (by decide), h.lookup_secret (by decide), ?_⟩
  simp only [Delivery.ofFields, he]

/-! ### Leases -/

namespace Lease

theorem Alike.need {l l' : Lease} (h : l.Alike L l') (now : Int) : l.need now = l'.need now := by
  obtain ⟨k, e⟩ := l
  obtain ⟨k', e'⟩ := l'
  obtain ⟨hk, he⟩ := h
  dsimp only at hk he
  subst he
  cases hk with
  | none => rfl
  | some _ => cases e <;> rfl

theorem Alike.handOut {l l' : Lease} (h : l.Alike L l') :
    Both (Keys.Alike L) l.handOut l'.handOut := by
  obtain ⟨k, e⟩ := l
  obtain ⟨k', e'⟩ := l'
  obtain ⟨hk, _⟩ := h
  cases hk with
  | none => exact .error _
  | some hk => exact .ok hk

theorem Alike.store {l l' : Lease} {d d' : Delivery} (method : String) (h : l.Alike L l')
    (hd : d.Alike L d') (now : Int) :
    (l.store method d now).1 = (l'.store method d' now).1 ∧
      (l.store method d now).2.Alike L (l'.store method d' now).2 := by
  obtain ⟨a, s, t, e⟩ := d
  obtain ⟨a', s', t', e'⟩ := d'
  obtain ⟨ha, hs, ht, he⟩ := hd
  dsimp only at ha hs ht he
  subst ha he
  have missed (hp : Delivery.parts? ⟨a, s, t, e⟩ = none)
      (hp' : Delivery.parts? ⟨a, s', t', e⟩ = none) :
      (l.store method ⟨a, s, t, e⟩ now).1 = (l'.store method ⟨a, s', t', e⟩ now).1 ∧
        (l.store method ⟨a, s, t, e⟩ now).2.Alike L (l'.store method ⟨a, s', t', e⟩ now).2 := by
    have hm : Delivery.missing ⟨a, s, t, e⟩ = Delivery.missing ⟨a, s', t', e⟩ := by
      simp only [Delivery.missing, isNone_of_rel hs, isNone_of_rel ht]
    rw [store_incomplete hp, store_incomplete hp', hm]
    exact ⟨rfl, h⟩
  cases a with
  | none => exact missed rfl rfl
  | some accessKey =>
    cases hs with
    | none => exact missed rfl rfl
    | @some secretKey secretKey' hs =>
      cases ht with
      | none => exact missed rfl rfl
      | @some token token' ht =>
        cases e with
        | none => exact missed rfl rfl
        | some field =>
          simp only [Lease.store, Delivery.parts?]
          cases field.read with
          | error failure => exact ⟨rfl, h⟩
          | ok expiry =>
            have hk : Option.Rel (Keys.Alike L) (some ⟨accessKey, secretKey, token⟩)
                (some ⟨accessKey, secretKey', token'⟩) := .some ⟨rfl, hs, ht⟩
            dsimp only
            cases fault? expiry now with
            | some failure => exact ⟨rfl, hk, rfl⟩
            | none => exact ⟨rfl, hk, rfl⟩

/-- Alike leases are used alike when the states that they act on are kept related by a fetch. -/
theorem Alike.use {σ τ : Type} {T : σ → τ → Prop} {clock : σ → Int} {clock' : τ → Int}
    {fetch : σ → Except Failure Delivery × σ} {fetch' : τ → Except Failure Delivery × τ}
    {l l' : Lease} {s : σ} {s' : τ} (method : String)
    (hc : ∀ {s s'}, T s s' → clock s = clock' s')
    (hf : ∀ {s s'}, T s s' →
      Both (Delivery.Alike L) (fetch s).1 (fetch' s').1 ∧ T (fetch s).2 (fetch' s').2)
    (hl : l.Alike L l') (hs : T s s') :
    Ends (Keys.Alike L) (Lease.Alike L) T (l.use method clock fetch s)
      (l'.use method clock' fetch' s') := by
  obtain ⟨hd, hs'⟩ := hf hs
  unfold Lease.use
  rw [hc hs, hl.need (clock' s')]
  generalize fetch s = f at hd hs'
  generalize fetch' s' = f' at hd hs'
  obtain ⟨delivered, v⟩ := f
  obtain ⟨delivered', v'⟩ := f'
  cases l'.need (clock' s') with
  | error failure => exact ⟨.error _, hl, hs⟩
  | ok need =>
    cases hd with
    | error failure =>
      cases need with
      | unneeded => exact ⟨hl.handOut, hl, hs⟩
      | advisory => exact ⟨hl.handOut, hl, hs'⟩
      | mandatory => exact ⟨.error _, hl, hs'⟩
    | @ok d d' hd =>
      have hstore := hl.store method hd (clock' v')
      have hv : clock v = clock' v' := hc hs'
      dsimp only
      rw [hv]
      generalize l.store method d (clock' v') = r at hstore
      generalize l'.store method d' (clock' v') = r' at hstore
      obtain ⟨stored, t⟩ := r
      obtain ⟨stored', t'⟩ := r'
      obtain ⟨hstored, ht⟩ := hstore
      dsimp only at hstored ht
      subst hstored
      cases need with
      | unneeded => exact ⟨hl.handOut, hl, hs⟩
      | advisory | mandatory =>
        cases stored with
        | error failure => exact ⟨.error _, ht, hs'⟩
        | ok u => exact ⟨ht.handOut, ht, hs'⟩

end Lease

end CloudCredentials
