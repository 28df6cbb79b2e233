import CloudCredentials.Proofs.CommandEnds
import CloudCredentials.Proofs.NestedChains
import Mathlib.Data.List.Nodup

/-!
# The source that serves

Credentials carry the name of the source that hands them out. In a provider this is the last source
that is asked, so that the number of those asked in vain says which one it is. The sources of a
configured provider have names of their own, and none of these changes when the provider is asked:
there, a name and a place say the same.
-/

namespace CloudCredentials

open CommandLine

/-! ### Names and places -/

namespace Source

/-- Credentials carry the name of the source that hands them out. -/
theorem ask_provider {s s' : Source} {w v : World} {c : Credentials} (h : s.IsGenuine w)
    (ha : s.ask w = (.ok c, s', v)) : c.provider = some s.name := by
  have backed {σ η : Type} {b : Backing σ η} {name shown : String} {p : Backed σ η}
      (ha : (p.ask b name shown w).1 = .ok c) : c.provider = some name := by
    obtain ⟨_, _, _, _, _, _, _, _, _, rfl⟩ := Backed.ask_ok (Prod.ext ha rfl)
    rfl
  have ha := congrArg Prod.fst ha
  cases s with
  | fixed keys =>
    cases ha
    rfl
  | scripted name answers => exact h.elim
  | _ => exact backed ha

theorem IsGenuine.name_word {s : Source} {w : World} (h : s.IsGenuine w) :
    ' ' ∉ s.name.toList ∧ Text.escapeChar ∉ s.name.toList := by
  have words : ∀ name ∈ [fixedName, InstanceProfile.name, NamedProfile.name, WebIdentity.name,
      Standard.name], ' ' ∉ name.toList ∧ Text.escapeChar ∉ name.toList := by decide
  refine words s.name ?_
  cases s with
  | scripted name answers => exact h.elim
  | _ => simp [name]

end Source

namespace Provider

def names (p : Provider) : List String := (Tree.leaves p).map Source.name

/-- How many sources are asked in vain before the one that hands out the credentials: the place of
that one among all sources. -/
def place (p : Provider) (w : World) : Nat := (Tree.asked Source.behaviour p w).length - 1

theorem resolve_names (p : Provider) (w : World) : (p.resolve w).2.1.names = p.names := by
  obtain ⟨later, hs, hl, _⟩ := Tree.asked_leaves Source.behaviour p w
  have hname : ∀ a ∈ Tree.asked Source.behaviour p w, a.left.name = a.source.name := by
    intro a ha
    obtain ⟨v, u, hask⟩ := Tree.mem_asked ha
    have h := a.source.ask_name v
    rwa [show a.source.ask v = _ from hask] at h
  have hl : Tree.leaves (p.resolve w).2.1 = _ := hl
  rw [names, names, hs, hl, List.map_append, List.map_append, List.map_map, List.map_map]
  exact congrArg (· ++ later.map Source.name) (List.map_congr_left hname)

/-- The credentials of a provider carry the name of the source at the place that is reached. -/
theorem resolve_provider {p : Provider} {w : World} {c : Credentials} {x : Provider × World}
    (h : Each Source.IsGenuine (p, w)) (hr : p.resolve w = (.ok c, x)) :
    ∃ name, c.provider = some name ∧ p.names[p.place w]? = some name := by
  obtain ⟨later, hs, _⟩ := Tree.asked_leaves Source.behaviour p w
  obtain ⟨vain, hanswers⟩ := Tree.asked_answers Source.behaviour p w
  rw [show Tree.ask Source.behaviour p w = _ from hr] at hanswers
  -- the last one that is asked has answered; those before it are as many as the place says
  obtain ⟨before, last, hasked, _, hlast⟩ := List.map_eq_append_iff.mp hanswers
  obtain ⟨a, rfl, hanswer⟩ := List.map_eq_singleton_iff.mp hlast
  have hmem : a ∈ Tree.asked Source.behaviour p w := by
    rw [hasked]
    exact List.mem_append_right _ List.mem_cons_self
  obtain ⟨v, u, hask⟩ := Tree.mem_asked hmem
  rw [hanswer] at hask
  have hleaf : a.source ∈ Tree.leaves p := by
    rw [hs]
    exact List.mem_append_left _ (List.mem_map_of_mem hmem)
  have hgenuine : a.source.IsGenuine v := (h a.source hleaf).at_world v
  refine ⟨a.source.name, Source.ask_provider hgenuine hask, ?_⟩
  rw [names, place, hs, hasked]
  simp

end Provider

/-! ### The names of configured providers -/

namespace Selection

def Kind.sourceName : Kind → String
  | .fixed => Source.fixedName
  | .metadata => InstanceProfile.name
  | .profile => NamedProfile.name
  | .federation => WebIdentity.name

theorem Kind.sourceName_injective : Function.Injective Kind.sourceName := by
  intro j k h
  revert h
  cases j <;> cases k <;> decide

theorem Makes.name {home : Option String} {client : Option Client} {p : CredentialsProperties}
    {k : Kind} {s : Source} (h : Makes home client p k s) : k.sourceName = s.name := by
  cases h <;> rfl

theorem Arranged.names {sources : List Source} {provider : Provider}
    (h : Arranged sources provider) (hs : sources ≠ []) :
    provider.names = sources.map Source.name := by
  cases h with
  | standard => exact absurd rfl hs
  | single s => rfl
  | chain _ => exact congrArg (List.map Source.name) (Tree.leavesAll_map_leaf sources)

theorem arranged_nodup {home : Option String} {client : Option Client} {supported : Bool}
    {p : CredentialsProperties} {sources : List Source} {provider : Provider}
    (hs : List.Forall₂ (Makes home client p) (selected supported p) sources)
    (ha : Arranged sources provider) : provider.names.Nodup := by
  by_cases hnone : sources = []
  · subst hnone
    cases ha with
    | standard => exact List.nodup_singleton _
    | chain h => exact absurd h (by decide)
  · have hnames : (selected supported p).map Kind.sourceName = sources.map Source.name := by
      rw [← List.forall₂_eq_eq_eq, List.forall₂_map_left_iff, List.forall₂_map_right_iff]
      exact hs.imp fun _ _ => Makes.name
    have horder : Kind.order.Nodup := by decide
    rw [ha.names hnone, ← hnames]
    exact (horder.filter _).map Kind.sourceName_injective

/-- The sources of a selection have names of their own. -/
theorem resolve_nodup {available : Option Bool} {region : World → Step String}
    {factory : ClientFactory} {p : CredentialsProperties} {w v : World} {provider : Provider}
    (h : resolve available region factory p w = (.ok provider, v)) : provider.names.Nodup := by
  have hcases := resolve_cases available region factory p w
  rw [h] at hcases
  cases hcases with
  | plain _ _ hs ha | federated _ _ _ _ hs ha => exact arranged_nodup hs ha

end Selection

namespace CommandLine

theorem configured_nodup {config : Option String} {w v : World} {provider : Provider}
    {region : RegionProvider} (h : configured config w = (.ok (provider, region), v)) :
    provider.names.Nodup := by
  obtain ⟨settings, u, _, _, hs⟩ := configured_ok h
  exact Selection.resolve_nodup hs

end CommandLine

end CloudCredentials
