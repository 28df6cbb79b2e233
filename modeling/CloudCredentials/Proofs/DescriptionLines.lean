import CloudCredentials.Proofs.ValidationSigner
import Mathlib.Data.List.Basic

/-!
# The lines of a description

The description of a provider has one line for each provider in the tree, a chain before its
members, indented by the depth and starting with the name of the kind. Whatever the settings hold
is shown in quotes and holds printable characters only there, so that no value ends a line or adds
one.
-/

namespace CloudCredentials

/-! ### Printable texts -/

namespace Text

/-- The text can be shown as it is. -/
def AllPrintable (cs : List Char) : Prop := ∀ c ∈ cs, isPrintable c = true

namespace AllPrintable

variable {cs ds : List Char}

theorem nil : AllPrintable [] := nofun

theorem cons {c : Char} (h : isPrintable c = true) (hs : AllPrintable cs) :
    AllPrintable (c :: cs) := List.forall_mem_cons.mpr ⟨h, hs⟩

theorem append (h : AllPrintable cs) (h' : AllPrintable ds) : AllPrintable (cs ++ ds) :=
  List.forall_mem_append.mpr ⟨h, h'⟩

theorem flatMap {α : Type} {items : List α} {f : α → List Char}
    (h : ∀ a ∈ items, AllPrintable (f a)) : AllPrintable (items.flatMap f) := by
  intro c hc
  obtain ⟨a, ha, hc⟩ := List.mem_flatMap.mp hc
  exact h a ha c hc

theorem intercalate {separator : String} {parts : List String}
    (hs : AllPrintable separator.toList) (hp : ∀ s ∈ parts, AllPrintable s.toList) :
    AllPrintable (separator.intercalate parts).toList := by
  induction parts with
  | nil => exact nil
  | cons first rest ih =>
    obtain ⟨hfirst, hrest⟩ := List.forall_mem_cons.mp hp
    cases rest with
    | nil =>
      rw [String.intercalate_singleton]
      exact hfirst
    | cons second rest =>
      rw [String.intercalate_cons_cons]
      simp only [String.toList_append]
      exact (hfirst.append hs).append (ih hrest)

theorem not_isLineBreak (h : AllPrintable cs) {c : Char} (hc : c ∈ cs) :
    isLineBreak c = false := by
  cases hb : isLineBreak c with
  | false => rfl
  | true =>
    have hp := h c hc
    rw [isPrintable_eq_false_of_isLineBreak hb] at hp
    cases hp

end AllPrintable

theorem hexDigit_isPrintable (n : Nat) : isPrintable (hexDigit n) = true := by
  have h : ∀ d < 16, isPrintable (Nat.digitChar d) = true := by decide
  exact h _ (Nat.mod_lt n (by omega))

theorem hexDigits_allPrintable (width n : Nat) : AllPrintable (hexDigits width n) := by
  induction width generalizing n with
  | zero => exact .nil
  | succ width ih => exact (ih (n / 16)).append (.cons (hexDigit_isPrintable n) .nil)

theorem escapeCode_allPrintable (n : Nat) : AllPrintable (escapeCode n) := by
  have hb : isPrintable '\\' = true := by decide
  unfold escapeCode
  split
  · exact .cons hb (.cons (by decide) (hexDigits_allPrintable 2 n))
  · split
    · exact .cons hb (.cons (by decide) (hexDigits_allPrintable 4 n))
    · exact .cons hb (.cons (by decide) (hexDigits_allPrintable 8 n))

theorem isValidChar_of_isPrintableCode {n : Nat} (hn : n < 0x110000)
    (h : isPrintableCode n = true) : n.isValidChar := by
  by_contra hv
  have hs : 0xD800 ≤ n ∧ n ≤ 0xDFFF := by
    unfold Nat.isValidChar at hv
    omega
  -- both halves of the surrogate pairs lie in one range that is not printable
  have hr : inRanges nonPrintableMiddle n = true := by
    refine List.any_eq_true.mpr ⟨(0xD7FC, 0xF8FF), by decide, ?_⟩
    rw [Bool.and_eq_true, decide_eq_true_eq, decide_eq_true_eq]
    omega
  rw [isPrintableCode, if_neg (by omega), if_neg (by omega), if_pos (by omega), hr] at h
  cases h

theorem toNat_ofNat_of_isPrintableCode {n : Nat} (hn : n < 0x110000)
    (h : isPrintableCode n = true) : (Char.ofNat n).toNat = n := by
  rw [Char.ofNat, dif_pos (isValidChar_of_isPrintableCode hn h)]
  rfl

theorem quoteCode_allPrintable {q : Char} (hq : isPrintable q = true) {n : Nat}
    (hn : n < 0x110000) : AllPrintable (quoteCode q n) := by
  have hb : isPrintable '\\' = true := by decide
  unfold quoteCode
  split
  · exact .cons hb (.cons hq .nil)
  split
  · exact .cons hb (.cons hb .nil)
  split
  · exact .cons hb (.cons (by decide) .nil)
  split
  · exact .cons hb (.cons (by decide) .nil)
  split
  · exact .cons hb (.cons (by decide) .nil)
  split
  · rename_i hp
    refine .cons ?_ .nil
    rw [isPrintable, toNat_ofNat_of_isPrintableCode hn hp]
    exact hp
  · exact escapeCode_allPrintable n

theorem quoteFor_isPrintable (codes : List Nat) : isPrintable (quoteFor codes) = true := by
  unfold quoteFor
  split <;> decide

theorem quotedCodes_allPrintable {codes : List Nat} (h : ∀ n ∈ codes, n < 0x110000) :
    AllPrintable (quotedCodes codes) := by
  have hq := quoteFor_isPrintable codes
  have hcodes : AllPrintable (codes.flatMap (quoteCode (quoteFor codes))) :=
    .flatMap fun n hn => quoteCode_allPrintable hq (h n hn)
  exact .append (.cons hq hcodes) (.cons hq .nil)

theorem toNat_lt (c : Char) : c.toNat < 0x110000 := by
  have hv := c.valid
  unfold UInt32.isValidChar Nat.isValidChar at hv
  show c.val.toNat < 0x110000
  omega

theorem forall_mem_codes_lt (s : String) : ∀ n ∈ s.toList.map Char.toNat, n < 0x110000 :=
  List.forall_mem_map.mpr fun c _ => toNat_lt c

/-- Quoted text is printable, whatever the text holds. -/
theorem quoted_allPrintable (s : String) : AllPrintable (quoted s).toList := by
  rw [quoted, String.toList_ofList]
  exact quotedCodes_allPrintable (forall_mem_codes_lt s)

instance (cs : List Char) : Decidable (AllPrintable cs) :=
  decidable_of_iff (cs.all isPrintable = true) List.all_eq_true

theorem quotedOption_allPrintable (s : Option String) : AllPrintable (quotedOption s).toList := by
  cases s with
  | none => decide
  | some s => exact quoted_allPrintable s

end Text

/-! ### How a source is shown -/

theorem Datum.literal_allPrintable (d : Datum) : Text.AllPrintable d.literal.toList := by
  cases d with
  | absent => decide
  | text s => exact Text.quoted_allPrintable s
  | table entries =>
    simp only [Datum.literal, String.toList_append]
    refine .append (.append (by decide) (.intercalate (by decide) fun s hs => ?_)) (by decide)
    obtain ⟨e, -, rfl⟩ := List.mem_map.mp hs
    simp only [String.toList_append]
    exact .append (.append (Text.quoted_allPrintable _) (by decide)) (Text.quoted_allPrintable _)

theorem FileName.literal_allPrintable (file : FileName) :
    Text.AllPrintable file.literal.toList := by
  cases file with
  | text s => exact Text.quoted_allPrintable s
  | path p =>
    simp only [FileName.literal, String.toList_append]
    exact .append (.append (by decide) (Text.quoted_allPrintable _)) (by decide)

theorem NamedProfile.shown_allPrintable (p : NamedProfile) :
    Text.AllPrintable p.shown.toList := by
  simp only [NamedProfile.shown, String.toList_append]
  refine .append (.append (.append (.append (.append ?_ ?_) ?_) ?_) ?_) ?_
  · decide
  · decide
  · exact Text.quoted_allPrintable p.profile
  · decide
  · exact Text.quoted_allPrintable p.location
  · decide

theorem WebIdentity.shown_allPrintable (p : WebIdentity) : Text.AllPrintable p.shown.toList := by
  have hfile : Text.AllPrintable ((p.tokenFile.map FileName.literal).getD "None").toList := by
    cases p.tokenFile with
    | none => decide
    | some file => exact file.literal_allPrintable
  have hasync : Text.AllPrintable (boolText p.asyncUpdate).toList := by
    cases p.asyncUpdate <;> decide
  simp only [WebIdentity.shown, String.toList_append]
  refine .append (.append (.append (.append (.append (.append (.append (.append (.append
    ?_ ?_) ?_) ?_) ?_) ?_) ?_) ?_) ?_) ?_
  · decide
  · decide
  · exact Text.quotedOption_allPrintable p.role
  · decide
  · exact hfile
  · decide
  · exact Text.quotedOption_allPrintable p.session
  · decide
  · exact hasync
  · decide

theorem Source.shown_allPrintable {s : Source} (h : s.IsOwn) :
    Text.AllPrintable s.shown.toList := by
  cases s with
  | fixed keys =>
    simp only [Source.shown, String.toList_append]
    refine .append (.append (.append ?_ ?_) ?_) ?_
    · decide
    · decide
    · exact keys.accessKey.literal_allPrintable
    · decide
  | instanceProfile state =>
    have hs : Text.AllPrintable InstanceProfile.shown.toList := by decide
    exact hs
  | profile state => exact state.parameters.shown_allPrintable
  | webIdentity state refresher => exact state.parameters.shown_allPrintable
  | standard state =>
    have hs : Text.AllPrintable Standard.shown.toList := by decide
    exact hs
  | scripted name answers => exact h.elim

/-- What is shown of a source starts with the name of its kind. -/
theorem Source.shown_kindName {s : Source} (h : s.IsOwn) :
    ∃ details, s.shown = s.kindName ++ details := by
  cases s with
  | fixed keys => exact ⟨_, by simp only [Source.shown, String.append_assoc]; rfl⟩
  | instanceProfile state => exact ⟨"()", rfl⟩
  | profile state =>
    exact ⟨_, by simp only [Source.shown, NamedProfile.shown, String.append_assoc]; rfl⟩
  | webIdentity state refresher =>
    exact ⟨_, by simp only [Source.shown, WebIdentity.shown, String.append_assoc]; rfl⟩
  | standard state => exact ⟨"()", rfl⟩
  | scripted name answers => exact h.elim

/-! ### The lines of a tree -/

namespace Tree

variable {μ : Type} (b : Behaviour μ)

mutual

/-- The providers of a tree with their depth, a chain before its members. -/
def nodes (depth : Nat) : Tree μ → List (Nat × Tree μ)
  | .leaf source => [(depth, .leaf source)]
  | .chain members => (depth, .chain members) :: nodesAll (depth + 1) members

def nodesAll (depth : Nat) : List (Tree μ) → List (Nat × Tree μ)
  | [] => []
  | t :: rest => nodes depth t ++ nodesAll depth rest

end

/-- What stands for a provider in its line: all of a source, and the name of a chain. -/
def title : Tree μ → String
  | .leaf source => b.shown source
  | .chain _ => Failure.chainName

/-- The line of a provider at a depth. -/
def line (node : Nat × Tree μ) : String := indentation node.1 ++ node.2.title b

mutual

theorem lines_eq (depth : Nat) (t : Tree μ) :
    lines b depth t = (nodes depth t).map (line b) := by
  cases t with
  | leaf source => rfl
  | chain members =>
    rw [lines, nodes, List.map_cons, linesAll_eq (depth + 1) members]
    rfl

theorem linesAll_eq (depth : Nat) (members : List (Tree μ)) :
    linesAll b depth members = (nodesAll depth members).map (line b) := by
  cases members with
  | nil => rfl
  | cons t rest =>
    rw [linesAll, nodesAll, List.map_append, lines_eq depth t, linesAll_eq depth rest]

end

mutual

theorem mem_leaves_of_mem_nodes {depth d : Nat} {s : μ} (t : Tree μ)
    (h : (d, .leaf s) ∈ nodes depth t) : s ∈ leaves t := by
  cases t with
  | leaf source =>
    have h := List.mem_singleton.mp h
    cases h
    exact List.mem_singleton_self s
  | chain members =>
    rcases List.mem_cons.mp h with h | h
    · cases h
    · exact mem_leavesAll_of_mem_nodesAll members h

theorem mem_leavesAll_of_mem_nodesAll {depth d : Nat} {s : μ} (members : List (Tree μ))
    (h : (d, .leaf s) ∈ nodesAll depth members) : s ∈ leavesAll members := by
  cases members with
  | nil => cases h
  | cons t rest =>
    rcases List.mem_append.mp h with h | h
    · exact List.mem_append_left _ (mem_leaves_of_mem_nodes t h)
    · exact List.mem_append_right _ (mem_leavesAll_of_mem_nodesAll rest h)

end

theorem nodesAll_leaves (depth : Nat) (sources : List μ) :
    nodesAll depth (sources.map .leaf) = sources.map fun s => (depth, .leaf s) := by
  induction sources with
  | nil => rfl
  | cons s rest ih =>
    rw [List.map_cons, nodesAll, ih]
    rfl

theorem indentation_allPrintable (depth : Nat) :
    Text.AllPrintable (indentation depth).toList := by
  induction depth with
  | zero => decide
  | succ depth ih =>
    rw [indentation, String.toList_append]
    exact .append (by decide) ih

end Tree

/-! ### The lines of a provider -/

/-- The line is the one of a provider at a depth: two spaces for each level, the name of the kind,
whatever there is to tell, and no line break. -/
def Provider.IsLine (node : Nat × Provider) (line : String) : Prop :=
  (∃ details, line = Tree.indentation node.1 ++ (node.2.kindName ++ details)) ∧
    ∀ c ∈ line.toList, Text.isLineBreak c = false

theorem Provider.isLine_line {p : Provider} (h : p.IsOwn) {node : Nat × Provider}
    (hn : node ∈ Tree.nodes 0 p) : IsLine node (Tree.line Source.behaviour node) := by
  obtain ⟨depth, t⟩ := node
  have hindentation := Tree.indentation_allPrintable depth
  cases t with
  | leaf s =>
    have hs : s.IsOwn := h s (Tree.mem_leaves_of_mem_nodes p hn)
    obtain ⟨details, hd⟩ := Source.shown_kindName hs
    have hp : Text.AllPrintable (Tree.line Source.behaviour (depth, .leaf s)).toList := by
      rw [Tree.line, String.toList_append]
      exact hindentation.append (Source.shown_allPrintable hs)
    exact ⟨⟨details, congrArg (Tree.indentation depth ++ ·) hd⟩, fun c => hp.not_isLineBreak⟩
  | chain members =>
    have hname : Text.AllPrintable Failure.chainName.toList := by decide
    have hp : Text.AllPrintable (Tree.line Source.behaviour (depth, .chain members)).toList := by
      rw [Tree.line, String.toList_append]
      exact hindentation.append hname
    refine ⟨⟨"", ?_⟩, fun c => hp.not_isLineBreak⟩
    rw [String.append_empty]
    rfl

theorem Provider.describe_eq (p : Provider) :
    p.describe = (Tree.nodes 0 p).map (Tree.line Source.behaviour) :=
  Tree.lines_eq Source.behaviour 0 p

theorem Provider.describe_isLine {p : Provider} (h : p.IsOwn) :
    List.Forall₂ IsLine (Tree.nodes 0 p) p.describe := by
  rw [describe_eq, List.forall₂_map_right_iff, List.forall₂_same]
  exact fun node hn => isLine_line h hn

theorem Text.splitOnP_lines {lines : List String}
    (h : ∀ line ∈ lines, ∀ c ∈ line.toList, isLineBreak c = false) :
    (String.join (lines.map (· ++ "\n"))).toList.splitOnP isLineBreak =
      lines.map String.toList ++ [[]] := by
  induction lines with
  | nil => rfl
  | cons line rest ih =>
    obtain ⟨hline, hrest⟩ := List.forall_mem_cons.mp h
    rw [List.map_cons, String.join_cons, String.toList_append, String.toList_append,
      List.append_assoc]
    have hsplit := List.splitOnP_append_cons_of_forall_mem hline '\n' (by decide)
      (String.join (rest.map (· ++ "\n"))).toList
    exact hsplit.trans (congrArg (line.toList :: ·) (ih hrest))

theorem Provider.splitOnP_describe {p : Provider} (h : p.IsOwn) :
    (String.join (p.describe.map (· ++ "\n"))).toList.splitOnP Text.isLineBreak =
      p.describe.map String.toList ++ [[]] := by
  refine Text.splitOnP_lines fun line hline => ?_
  rw [describe_eq] at hline
  obtain ⟨node, hn, rfl⟩ := List.mem_map.mp hline
  exact (isLine_line h hn).2

theorem Selection.Arranged.nodes {sources : List Source} {provider : Provider}
    (h : Arranged sources provider) :
    (∃ s, provider = .leaf s ∧ Tree.nodes 0 provider = [(0, .leaf s)]) ∨
      ∃ members : List Source, 2 ≤ members.length ∧ provider = .chain (members.map .leaf) ∧
        Tree.nodes 0 provider = (0, provider) :: members.map fun s => (1, .leaf s) := by
  cases h with
  | standard => exact .inl ⟨_, rfl, rfl⟩
  | single s => exact .inl ⟨s, rfl, rfl⟩
  | @chain sources hlength =>
    refine .inr ⟨sources, hlength, rfl, ?_⟩
    rw [Tree.nodes, Tree.nodesAll_leaves]

theorem Selection.resolve_arranged {available : Option Bool} {region : World → Step String}
    {factory : ClientFactory} {p : CredentialsProperties} {w v : World} {provider : Provider}
    (h : resolve available region factory p w = (.ok provider, v)) :
    ∃ sources, Arranged sources provider := by
  have hres := resolve_cases available region factory p w
  rw [h] at hres
  cases hres with
  | plain _ _ _ ha => exact ⟨_, ha⟩
  | federated _ _ _ _ _ ha => exact ⟨_, ha⟩

namespace CommandLine

theorem describe_ok {config : Option String} {w x : World} {output : String}
    (h : describe config w = (.ok output, x)) :
    ∃ provider region v, configured config w = (.ok (provider, region), v) ∧
      output = String.join (provider.describe.map (· ++ "\n")) := by
  unfold describe at h
  rcases hc : configured config w with ⟨failure | ⟨provider, region⟩, v⟩
  · rw [hc] at h
    cases h
  · rw [hc] at h
    cases h
    exact ⟨provider, region, v, rfl, rfl⟩

/-- When a description succeeds, the provider is a source with one line, or a chain of sources with
its own line and one for each member, a level deeper. The output is these lines in order, and it
has no other line breaks than the ones that end them. -/
theorem run_describes {arguments : List String} {debug : Bool} {config : Option String} {w : World}
    (ha : request arguments = .ok (.run debug .describe config))
    (hx : (run arguments w).1.exitCode = 0) :
    ∃ provider region v lines, configured config w = (.ok (provider, region), v) ∧
      ((∃ s, provider = .leaf s ∧ Tree.nodes 0 provider = [(0, .leaf s)]) ∨
        ∃ members : List Source, 2 ≤ members.length ∧ provider = .chain (members.map .leaf) ∧
          Tree.nodes 0 provider = (0, provider) :: members.map fun s => (1, .leaf s)) ∧
      List.Forall₂ Provider.IsLine (Tree.nodes 0 provider) lines ∧
      (run arguments w).1.output = String.join (lines.map (· ++ "\n")) ∧
      (run arguments w).1.output.toList.splitOnP Text.isLineBreak =
        lines.map String.toList ++ [[]] := by
  have hrun : (run arguments w).1 = conclude isExpected debug (describe config w).1 := by
    rw [run, ha]
    rfl
  rw [hrun] at hx ⊢
  rcases hd : describe config w with ⟨failure | output, x⟩
  · rw [hd] at hx
    unfold conclude at hx
    dsimp only at hx
    split at hx <;> cases hx
  · obtain ⟨provider, region, v, hc, rfl⟩ := describe_ok hd
    obtain ⟨settings, u, _, _, hs⟩ := configured_ok hc
    have hown : provider.IsOwn := fun s h => ((configured_isGenuine hc).2 s h).isOwn
    obtain ⟨sources, ha⟩ := Selection.resolve_arranged hs
    refine ⟨provider, region, v, provider.describe, hc, ha.nodes, ?_, rfl, ?_⟩
    · exact Provider.describe_isLine hown
    · exact Provider.splitOnP_describe hown

/-- Settings whose profile name would end its line and add one that looks like a source. -/
def forgedLine : World where
  environment := [("AWS_AUTOCONFIG_CREDENTIALS__INSTANCE_PROFILE", "true"),
    ("AWS_AUTOCONFIG_CREDENTIALS__PROFILE__NAME", "dev')\n  StaticCredentialsProvider()")]

/-- The chain and its two members, and no line for what the name spells. -/
theorem run_describes_forgedLine :
    request ["describe"] = .ok (.run false .describe none) ∧
      (run ["describe"] forgedLine).1.exitCode = 0 ∧
      ∃ provider region v lines, configured none forgedLine = (.ok (provider, region), v) ∧
        List.Forall₂ Provider.IsLine (Tree.nodes 0 provider) lines ∧
        (run ["describe"] forgedLine).1.output.toList.splitOnP Text.isLineBreak =
          lines.map String.toList ++ [[]] ∧
        lines = ["CredentialsProviderChain", "  InstanceProfileCredentialsProvider()",
          "  ProfileCredentialsProvider(" ++
            "profile_name=\"dev')\\n  StaticCredentialsProvider()\", path='default')"] := by
  have ha : request ["describe"] = .ok (.run false .describe none) := rfl
  have hrun : (run ["describe"] forgedLine).1.exitCode = 0 ∧
      (run ["describe"] forgedLine).1.output.toList.splitOnP Text.isLineBreak =
        ["CredentialsProviderChain", "  InstanceProfileCredentialsProvider()",
          "  ProfileCredentialsProvider(" ++
            "profile_name=\"dev')\\n  StaticCredentialsProvider()\", path='default')"].map
          String.toList ++ [[]] := by
    decide +kernel
  obtain ⟨hx, houtput⟩ := hrun
  obtain ⟨provider, region, v, lines, hc, -, hlines, -, hsplit⟩ := run_describes ha hx
  refine ⟨ha, hx, provider, region, v, lines, hc, hlines, hsplit, ?_⟩
  have hmap := List.append_cancel_right (hsplit.symm.trans houtput)
  exact (List.map_injective_iff.mpr fun a b => String.toList_inj.mp) hmap

end CommandLine

end CloudCredentials
