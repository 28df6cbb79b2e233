import CloudCredentials.Proofs.YamlTokenFaults
import CloudCredentials.Yaml.Document

/-!
# Faults of YAML texts

Reading a YAML text fails only with faults of the text: it is not encoded as one, or a token, a node
or a value of it is wrong. No part of a reader looks at files or at the environment, so none reports
a missing file.
-/

namespace CloudCredentials.Yaml

/-! ### Nodes -/

namespace Reading

/-- A reader fails only with faults of the document, wherever it starts. -/
def OfDocument {α : Type} (m : Reading α) : Prop := ∀ r, CloudCredentials.OfDocument (m r)

section

variable {α β : Type} {m : Reading α}

theorem OfDocument.bind {k : α → Reading β} (hm : OfDocument m) (hk : ∀ a, OfDocument (k a)) :
    OfDocument (m >>= k) := by
  intro r
  exact FailsOnly.bind (hm r) fun read => hk read.1 read.2

theorem ofDocument_pure (a : α) : OfDocument (pure a : Reading α) :=
  fun r => failsOnly_ok (a, r)

theorem ofDocument_get : OfDocument (get : Reading NodeReader) :=
  fun r => failsOnly_ok (r, r)

theorem ofDocument_modify (f : NodeReader → NodeReader) :
    OfDocument (modify f : Reading Unit) :=
  fun r => failsOnly_ok ((), f r)

theorem ofDocument_noNode : OfDocument (noNode : Reading α) :=
  fun _ => (failsOnly_error _).mpr rfl

theorem ofDocument_lift {r : Except Failure α} (h : CloudCredentials.OfDocument r) :
    OfDocument (liftM r : Reading α) := by
  intro s
  exact .bind h fun a => failsOnly_ok (a, s)

theorem ofDocument_set (r : NodeReader) : OfDocument (set r : Reading PUnit) :=
  fun _ => failsOnly_ok (PUnit.unit, r)

theorem ofDocument_throw {f : Failure} (hf : f.isDocument = true) :
    OfDocument (throw f : Reading α) := fun _ => (failsOnly_error f).mpr hf

theorem peek_ofDocument : OfDocument peek :=
  .bind ofDocument_get fun r => .bind (ofDocument_lift (TokenStream.peek_ofDocument r.stream))
    fun _ => .bind (ofDocument_set _) fun _ => ofDocument_pure _

theorem drop_ofDocument : OfDocument drop := ofDocument_modify _

theorem skip_ofDocument (t : Token) : OfDocument (skip t) := by
  refine .bind peek_ofDocument fun first => ?_
  split
  · exact drop_ofDocument
  · exact ofDocument_noNode

theorem aliased_ofDocument (name : String) : OfDocument (aliased name) := by
  refine .bind ofDocument_get fun r => ?_
  split
  · exact ofDocument_pure _
  · exact ofDocument_throw rfl

theorem claim_ofDocument (anchor : Option String) (node : Node) :
    OfDocument (claim anchor node) := by
  unfold claim
  split
  · exact ofDocument_pure _
  · refine .bind ofDocument_get fun r => ?_
    split
    · exact ofDocument_throw rfl
    · exact ofDocument_modify _

theorem settle_ofDocument (anchor : Option String) (node : Node) :
    OfDocument (settle anchor node) := by
  unfold settle
  split
  · exact ofDocument_pure _
  · exact .bind (ofDocument_modify _) fun _ => ofDocument_pure _

theorem tagOf_ofDocument (handle : Option String) (suffix : String) :
    OfDocument (tagOf handle suffix) := by
  unfold tagOf
  split
  · exact ofDocument_pure _
  · refine .bind ofDocument_get fun r => ?_
    split
    · exact ofDocument_pure _
    · exact ofDocument_noNode

theorem properties_ofDocument : OfDocument properties := by
  have tagged (anchor : Option String) (handle : Option String) (suffix : String) :
      OfDocument (do return (anchor, some (← tagOf handle suffix))) :=
    .bind (tagOf_ofDocument _ _) fun _ => ofDocument_pure _
  refine .bind peek_ofDocument fun first => ?_
  split
  · refine .bind drop_ofDocument fun _ => .bind peek_ofDocument fun second => ?_
    split
    · exact .bind drop_ofDocument fun _ => tagged _ _ _
    · exact ofDocument_pure _
  · refine .bind drop_ofDocument fun _ => .bind peek_ofDocument fun second => ?_
    split
    · exact .bind drop_ofDocument fun _ => tagged _ _ _
    · exact tagged _ _ _
  · exact ofDocument_pure _

/-- All productions with this much fuel fail only with faults of the document. -/
structure Productions (fuel : Nat) : Prop where
  node : ∀ context, OfDocument (node fuel context)
  content : ∀ tag shape, OfDocument (content fuel tag shape)
  nodeUnless : ∀ context stops, OfDocument (nodeUnless fuel context stops)
  valuePart : ∀ context stops, OfDocument (valuePart fuel context stops)
  blockItems : OfDocument (blockItems fuel)
  flatItems : OfDocument (flatItems fuel)
  blockEntries : OfDocument (blockEntries fuel)
  flowItems : ∀ first, OfDocument (flowItems fuel first)
  flowEntries : ∀ first, OfDocument (flowEntries fuel first)

theorem productions_zero : Productions 0 where
  node _ := ofDocument_noNode
  content _ _ := ofDocument_noNode
  nodeUnless _ _ := ofDocument_noNode
  valuePart _ _ := ofDocument_noNode
  blockItems := ofDocument_noNode
  flatItems := ofDocument_noNode
  blockEntries := ofDocument_noNode
  flowItems _ := ofDocument_noNode
  flowEntries _ := ofDocument_noNode

/-- The parts of a flow collection after its comma, if one is due. -/
theorem afterComma {α : Type} {first : Bool} {rest : Unit → Reading α}
    (hr : ∀ u, OfDocument (rest u)) :
    OfDocument (if (!first) = true then skip .flowEntry >>= rest else rest ()) := by
  split
  · exact .bind (skip_ofDocument _) hr
  · exact hr ()

namespace Productions

variable {fuel : Nat} (h : Productions fuel)

include h

theorem node_succ (context : Context) : OfDocument (Reading.node (fuel + 1) context) := by
  unfold Reading.node
  refine .bind peek_ofDocument fun first => ?_
  split
  · exact .bind drop_ofDocument fun _ => aliased_ofDocument _
  · refine .bind properties_ofDocument fun properties => .bind peek_ofDocument fun second => ?_
    split
    · exact ofDocument_noNode
    · exact .bind (claim_ofDocument _ _) fun _ => .bind (h.content _ _) fun _ =>
        settle_ofDocument _ _

theorem content_succ (tag : Option String) (shape : Shape) :
    OfDocument (Reading.content (fuel + 1) tag shape) := by
  have dropped {α : Type} {m : Reading α} (f : α → Node) (hm : OfDocument m) :
      OfDocument (do drop; return f (← m)) :=
    .bind drop_ofDocument fun _ => .bind hm fun _ => ofDocument_pure _
  unfold Reading.content
  cases shape with
  | scalar _ _ => exact .bind drop_ofDocument fun _ => ofDocument_pure _
  | empty => exact ofDocument_pure _
  | blockSequence => exact dropped _ h.blockItems
  | flatSequence => exact .bind h.flatItems fun _ => ofDocument_pure _
  | blockMapping => exact dropped _ h.blockEntries
  | flowSequence => exact dropped _ (h.flowItems true)
  | flowMapping => exact dropped _ (h.flowEntries true)

theorem nodeUnless_succ (context : Context) (stops : Token → Bool) :
    OfDocument (Reading.nodeUnless (fuel + 1) context stops) := by
  unfold Reading.nodeUnless
  refine .bind peek_ofDocument fun first => ?_
  split
  · exact ofDocument_pure _
  · exact h.node _

theorem valuePart_succ (context : Context) (stops : Token → Bool) :
    OfDocument (Reading.valuePart (fuel + 1) context stops) := by
  unfold Reading.valuePart
  refine .bind peek_ofDocument fun first => ?_
  split
  · exact .bind drop_ofDocument fun _ => h.nodeUnless _ _
  · exact ofDocument_pure _

theorem blockItems_succ : OfDocument (Reading.blockItems (fuel + 1)) := by
  unfold Reading.blockItems
  refine .bind peek_ofDocument fun first => ?_
  split
  · exact .bind drop_ofDocument fun _ => .bind (h.nodeUnless _ _) fun _ =>
      .bind h.blockItems fun _ => ofDocument_pure _
  · exact .bind (skip_ofDocument _) fun _ => ofDocument_pure _

theorem flatItems_succ : OfDocument (Reading.flatItems (fuel + 1)) := by
  unfold Reading.flatItems
  refine .bind peek_ofDocument fun first => ?_
  split
  · exact .bind drop_ofDocument fun _ => .bind (h.nodeUnless _ _) fun _ =>
      .bind h.flatItems fun _ => ofDocument_pure _
  · exact ofDocument_pure _

/-- The two parts of an entry, and what is made of them and of what follows. -/
theorem entry {α : Type} {context : Context} {stops stops' : Token → Bool} {rest : Reading α}
    (hr : OfDocument rest) (f : Node → Node → α → α) : OfDocument (do
      drop
      let key ← Reading.nodeUnless fuel context stops
      let value ← Reading.valuePart fuel context stops'
      return f key value (← rest)) :=
  .bind drop_ofDocument fun _ => .bind (h.nodeUnless _ _) fun _ => .bind (h.valuePart _ _) fun _ =>
    .bind hr fun _ => ofDocument_pure _

theorem blockEntries_succ : OfDocument (Reading.blockEntries (fuel + 1)) := by
  unfold Reading.blockEntries
  refine .bind peek_ofDocument fun first => ?_
  split
  · exact h.entry h.blockEntries fun key value rest => (key, value) :: rest
  · exact .bind (skip_ofDocument _) fun _ => ofDocument_pure _

theorem flowItems_succ (first : Bool) : OfDocument (Reading.flowItems (fuel + 1) first) := by
  unfold Reading.flowItems
  refine .bind peek_ofDocument fun t => ?_
  split
  · exact .bind drop_ofDocument fun _ => ofDocument_pure _
  · refine afterComma fun _ => .bind peek_ofDocument fun next => ?_
    split
    · exact .bind drop_ofDocument fun _ => ofDocument_pure _
    · exact h.entry (h.flowItems false) fun key value rest =>
        .mapping .mapping [(key, value)] :: rest
    · exact .bind (h.node _) fun _ => .bind (h.flowItems false) fun _ => ofDocument_pure _

theorem flowEntries_succ (first : Bool) : OfDocument (Reading.flowEntries (fuel + 1) first) := by
  unfold Reading.flowEntries
  refine .bind peek_ofDocument fun t => ?_
  split
  · exact .bind drop_ofDocument fun _ => ofDocument_pure _
  · refine afterComma fun _ => .bind peek_ofDocument fun next => ?_
    split
    · exact .bind drop_ofDocument fun _ => ofDocument_pure _
    · exact h.entry (h.flowEntries false) fun key value rest => (key, value) :: rest
    · exact .bind (h.node _) fun _ => .bind (h.flowEntries false) fun _ => ofDocument_pure _

end Productions

/-- One more step of every production meets the same faults. -/
theorem productions (fuel : Nat) : Productions fuel := by
  induction fuel with
  | zero => exact productions_zero
  | succ fuel h =>
    exact {
      node := h.node_succ
      content := h.content_succ
      nodeUnless := h.nodeUnless_succ
      valuePart := h.valuePart_succ
      blockItems := h.blockItems_succ
      flatItems := h.flatItems_succ
      blockEntries := h.blockEntries_succ
      flowItems := h.flowItems_succ
      flowEntries := h.flowEntries_succ }

/-! ### Documents -/

theorem directives_ofDocument (fuel : Nat) (versioned : Bool) (handles : List (String × String)) :
    OfDocument (directives fuel versioned handles) := by
  induction fuel generalizing versioned handles with
  | zero => exact ofDocument_pure _
  | succ fuel ih =>
    unfold directives
    refine .bind peek_ofDocument fun t => ?_
    split
    · refine .bind drop_ofDocument fun _ => ?_
      split
      · split
        · exact ofDocument_noNode
        · exact ih _ _
      · split
        · exact ofDocument_noNode
        · exact ih _ _
      · exact ih _ _
    · exact ofDocument_pure _

theorem documentStart_ofDocument (fuel : Nat) : OfDocument (documentStart fuel) :=
  .bind (directives_ofDocument _ _ _) fun _ => .bind (ofDocument_modify _) fun _ =>
    skip_ofDocument _

theorem documentEnds_ofDocument (fuel : Nat) : OfDocument (documentEnds fuel) := by
  induction fuel with
  | zero => exact ofDocument_pure _
  | succ fuel ih =>
    unfold documentEnds
    refine .bind peek_ofDocument fun t => ?_
    split
    · exact .bind drop_ofDocument fun _ => ih
    · exact ofDocument_pure _

theorem streamEnd_ofDocument (fuel : Nat) : OfDocument (streamEnd fuel) := by
  refine .bind (documentEnds_ofDocument _) fun _ => .bind peek_ofDocument fun t => ?_
  split
  · exact .bind (documentStart_ofDocument _) fun _ => ofDocument_throw rfl
  · exact ofDocument_pure _

theorem document_ofDocument (fuel : Nat) : OfDocument (document fuel) := by
  have ends (root : Node) : OfDocument (do streamEnd fuel; return some root) :=
    .bind (streamEnd_ofDocument _) fun _ => ofDocument_pure _
  refine .bind peek_ofDocument fun t => ?_
  split
  · exact ofDocument_pure _
  · exact .bind (documentStart_ofDocument _) fun _ =>
      .bind ((productions _).nodeUnless _ _) fun _ => ends _
  · exact .bind (documentStart_ofDocument _) fun _ =>
      .bind ((productions _).nodeUnless _ _) fun _ => ends _
  · exact .bind ((productions _).node _) fun _ => ends _

end

end Reading

theorem readDocument_ofDocument (cs : List Char) : OfDocument (readDocument cs) :=
  (failsOnly_map _).mpr (Reading.document_ofDocument _ _)

/-! ### Scalars -/

theorem refuse_ofDocument {α : Type} (message : String) :
    OfDocument (refuse message : Except Failure α) := (failsOnly_error _).mpr rfl

theorem readInt_ofDocument (base : Nat) (cs : List Char) : OfDocument (readInt base cs) := by
  unfold readInt
  dsimp only
  split
  · exact refuse_ofDocument _
  · exact .ite (refuse_ofDocument _) (failsOnly_ok _)

theorem mapM_ofDocument {α β : Type} {f : α → Except Failure β} (hf : ∀ a, OfDocument (f a))
    (items : List α) : OfDocument (items.mapM f) := by
  induction items with
  | nil => exact failsOnly_ok []
  | cons item rest ih =>
    rw [List.mapM_cons]
    exact .bind (hf item) fun _ => .bind ih fun _ => failsOnly_pure _

theorem intValue_ofDocument (cs : List Char) : OfDocument (intValue cs) := by
  unfold intValue
  dsimp only
  split
  · exact (failsOnly_error _).mpr rfl
  · generalize cs.filter (· ≠ '_') = cs
    have signed {r : Except Failure Int} (hr : OfDocument r) :
        OfDocument (r >>= fun n => pure (Value.int (if isNegative cs then -n else n))) :=
      .bind hr fun _ => failsOnly_pure _
    split
    · exact signed (failsOnly_pure 0)
    · exact signed (readInt_ofDocument 2 _)
    · exact signed (readInt_ofDocument 16 _)
    · exact signed (readInt_ofDocument 8 _)
    · exact signed ((failsOnly_error .noDigits).mpr rfl)
    · exact .ite (signed ((failsOnly_map _).mpr (mapM_ofDocument (readInt_ofDocument 10) _)))
        (signed (readInt_ofDocument 10 _))

theorem readFloat_ofDocument (cs : List Char) : OfDocument (readFloat cs) := by
  unfold readFloat
  dsimp only
  split
  · exact failsOnly_ok _
  · exact refuse_ofDocument _

theorem floatValue_ofDocument (cs : List Char) : OfDocument (floatValue cs) := by
  unfold floatValue
  dsimp only
  split
  · exact (failsOnly_error _).mpr rfl
  · generalize Text.lowerChars (cs.filter (· ≠ '_')) = cs
    have signed {r : Except Failure Float} (hr : OfDocument r) :
        OfDocument (r >>= fun x => pure (Value.float (if isNegative cs then -x else x))) :=
      .bind hr fun _ => failsOnly_pure _
    exact .ite (signed (failsOnly_pure _)) <| .ite (signed (failsOnly_pure _)) <|
      .ite (signed ((failsOnly_map _).mpr (mapM_ofDocument readFloat_ofDocument _)))
        (signed (readFloat_ofDocument _))

theorem boolValue_ofDocument (cs : List Char) : OfDocument (boolValue cs) := by
  unfold boolValue
  dsimp only
  split
  · exact failsOnly_ok _
  · split
    · exact failsOnly_ok _
    · exact (failsOnly_error _).mpr rfl

theorem zoneOffset_ofDocument (zone : Bool × Nat × Nat) : OfDocument (zoneOffset zone) := by
  unfold zoneOffset
  dsimp only
  split
  · exact failsOnly_ok _
  · exact refuse_ofDocument _

theorem timeValue_ofDocument (cs : List Char) : OfDocument (timeValue cs) := by
  unfold timeValue
  split
  · exact (failsOnly_error _).mpr rfl
  · extract_lets date
    have hdate : OfDocument date := by
      unfold date
      split
      · exact failsOnly_ok _
      · exact refuse_ofDocument _
      · exact refuse_ofDocument _
    clear_value date
    split
    · exact (failsOnly_map _).mpr hdate
    · dsimp only
      split
      · refine .bind ((failsOnly_map _).mpr (zoneOffset_ofDocument _)) fun offset =>
          .bind hdate fun date => ?_
        split
        · exact refuse_ofDocument _
        · exact failsOnly_pure _
      · refine .bind (failsOnly_pure _) fun offset => .bind hdate fun date => ?_
        split
        · exact refuse_ofDocument _
        · exact failsOnly_pure _

theorem binaryValue_ofDocument (cs : List Char) : OfDocument (binaryValue cs) := by
  unfold binaryValue
  split
  · split
    · exact failsOnly_ok _
    · exact (failsOnly_error _).mpr rfl
  · exact (failsOnly_error _).mpr rfl

theorem scalarValue_ofDocument (kind : Kind) (codes : List Nat) :
    OfDocument (scalarValue kind codes) := by
  unfold scalarValue
  dsimp only
  split
  · exact failsOnly_ok _
  · exact boolValue_ofDocument _
  · exact intValue_ofDocument _
  · exact floatValue_ofDocument _
  · exact binaryValue_ofDocument _
  · exact timeValue_ofDocument _
  · exact failsOnly_ok _
  · exact (failsOnly_error _).mpr rfl

/-! ### Values -/

theorem singleValue_ofDocument (n : Node) : OfDocument (singleValue n) := by
  unfold singleValue
  split
  · exact (failsOnly_error _).mpr rfl
  · exact (failsOnly_error _).mpr rfl
  · exact scalarValue_ofDocument _ _

namespace Layered

/-- A layered result that is a fault only if that is one of the document. -/
def OfDocument {α : Type} (r : Layered α) : Prop :=
  ∀ fault, r = .error fault → fault.2.isDocument = true

section

variable {α β : Type} {a : Layered α}

theorem ofDocument_ok (a : α) : OfDocument (.ok a : Layered α) := by
  intro fault h
  cases h

theorem ofDocument_noValue (layer : Nat) : OfDocument (noValue layer : Layered α) := by
  intro fault h
  cases h
  rfl

theorem OfDocument.map (h : OfDocument a) (f : α → β) : OfDocument (Except.map f a) := by
  cases a with
  | ok _ => exact ofDocument_ok _
  | error fault =>
    intro other ho
    cases ho
    exact h fault rfl

theorem OfDocument.both {b : Layered β} (ha : OfDocument a) (hb : OfDocument b) :
    OfDocument (Layered.both a b) := by
  intro fault h
  cases a with
  | ok _ =>
    cases b with
    | ok _ => cases h
    | error second =>
      cases h
      exact hb _ rfl
  | error first =>
    cases b with
    | ok _ =>
      cases h
      exact ha _ rfl
    | error second =>
      simp only [Layered.both] at h
      split at h
      · cases h
        exact hb _ rfl
      · cases h
        exact ha _ rfl

theorem OfDocument.all {results : List (Layered α)} (h : ∀ r ∈ results, OfDocument r) :
    OfDocument (Layered.all results) := by
  induction results with
  | nil => exact ofDocument_ok []
  | cons r rest ih =>
    have hrest := ih fun r' hr' => h r' (List.mem_cons_of_mem _ hr')
    exact ((h r List.mem_cons_self).both hrest).map _

theorem ofDocument_inLayer (layer : Nat) {r : Except Failure α}
    (h : CloudCredentials.OfDocument r) : OfDocument (inLayer layer r) := by
  intro fault hf
  cases r with
  | ok _ => cases hf
  | error f =>
    cases hf
    exact h f rfl

end

variable {valueOf : Node → Layered Value} (hv : ∀ n, OfDocument (valueOf n))

include hv

theorem entryValues_ofDocument (fuel layer : Nat) (n : Node) :
    OfDocument (entryValues valueOf fuel layer n) := by
  unfold entryValues
  split
  · split
    · exact ofDocument_noValue _
    · refine .all fun r hr => ?_
      obtain ⟨entry, _, rfl⟩ := List.mem_map.mp hr
      refine .both ?_ (hv _)
      split
      · exact ofDocument_noValue _
      · exact hv _
  · exact ofDocument_noValue _

theorem pairValues_ofDocument (layer : Nat) (n : Node) :
    OfDocument (pairValues valueOf layer n) := by
  unfold pairValues
  split
  · refine .all fun r hr => ?_
    obtain ⟨item, _, rfl⟩ := List.mem_map.mp hr
    split
    · exact (OfDocument.both (hv _) (hv _)).map _
    · exact ofDocument_noValue _
  · exact ofDocument_noValue _

end Layered

theorem Node.value_ofDocument (fuel layer : Nat) (n : Node) :
    Layered.OfDocument (n.value fuel layer) := by
  induction fuel generalizing layer n with
  | zero => exact Layered.ofDocument_noValue _
  | succ fuel ih =>
    unfold Node.value
    dsimp only
    split
    · split
      · refine Layered.OfDocument.map (.all fun r hr => ?_) _
        obtain ⟨item, _, rfl⟩ := List.mem_map.mp hr
        exact ih _ _
      · exact Layered.ofDocument_noValue _
    · exact (Layered.entryValues_ofDocument (ih _) _ _ _).map _
    · exact (Layered.entryValues_ofDocument (ih _) _ _ _).map _
    · exact (Layered.pairValues_ofDocument (ih _) _ _).map _
    · exact (Layered.pairValues_ofDocument (ih _) _ _).map _
    · split
      · exact Layered.ofDocument_inLayer _ (singleValue_ofDocument _)
      · exact Layered.ofDocument_noValue _

theorem readChars_ofDocument (bytes : List UInt8) : OfDocument (readChars bytes) := by
  unfold readChars
  refine .bind ?_ fun cs => ?_
  · cases Text.decodeUtf8Pieces pieceSize bytes with
    | ok cs => exact failsOnly_ok cs
    | error fault => exact (failsOnly_error _).mpr rfl
  · exact .ite (failsOnly_pure _) ((failsOnly_error _).mpr rfl)

/-- Reading a text fails only with faults of the text. -/
theorem read_ofDocument (bytes : List UInt8) : OfDocument (read bytes) := by
  refine .bind (readChars_ofDocument bytes) fun cs => ?_
  refine .bind (readDocument_ofDocument cs) fun root => ?_
  split
  · exact failsOnly_pure _
  · rename_i root
    have hvalue := Node.value_ofDocument (cs.length + 4) 0 root
    cases hr : root.value (cs.length + 4) 0 with
    | ok value => exact failsOnly_ok value
    | error fault => exact (failsOnly_error _).mpr (hvalue fault hr)

end CloudCredentials.Yaml
