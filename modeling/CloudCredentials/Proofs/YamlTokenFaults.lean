import CloudCredentials.Proofs.FailureKinds
import CloudCredentials.Yaml.TokenStream

/-!
# Faults of YAML tokens

A fault that is found while a YAML text is read lies in the text. This is so for all functions that
read tokens, and for the stream that the tokens are taken from.
-/

namespace CloudCredentials

/-- A fault that lies in a document. -/
def Failure.isDocument : Failure → Bool
  | .encoding _ | .yaml _ | .refused _ | .missingField _ | .mismatch _ | .noPart | .noDigits => true
  | _ => false

theorem Failure.isMissingFile_of_isDocument {f : Failure} (h : f.isDocument = true) :
    f.isMissingFile = false := by
  cases f <;> first | rfl | cases h

/-- A result that is a failure only if that is a fault of the document. -/
abbrev OfDocument {α : Type} (r : Except Failure α) : Prop := FailsOnly Failure.isDocument r

namespace Yaml

/-! ### Tokens -/

@[simp] theorem noToken_ofDocument {α : Type} : OfDocument (noToken : Except Failure α) :=
  (failsOnly_error _).mpr rfl

@[simp] theorem scanNumber_ofDocument (c : Cursor) : OfDocument (scanNumber c) := by
  unfold scanNumber
  dsimp only
  split <;> simp

@[simp] theorem scanVersion_ofDocument (c : Cursor) : OfDocument (scanVersion c) := by
  refine .bind (scanNumber_ofDocument _) fun major => ?_
  dsimp only
  split
  · simp
  · refine .bind (scanNumber_ofDocument _) fun minor => ?_
    split <;> simp

@[simp] theorem scanHandle_ofDocument (c : Cursor) : OfDocument (scanHandle c) := by
  unfold scanHandle
  dsimp only
  split
  · simp
  · split
    · simp
    · split <;> simp

@[simp] theorem scanAddress_ofDocument (c : Cursor) : OfDocument (scanAddress c) := by
  unfold scanAddress
  split
  · simp
  · split <;> simp

@[simp] theorem scanTagDirective_ofDocument (c : Cursor) : OfDocument (scanTagDirective c) := by
  refine .bind (scanHandle_ofDocument _) fun handle => ?_
  dsimp only
  split
  · simp
  · refine .bind (scanAddress_ofDocument _) fun start => ?_
    split <;> simp

@[simp] theorem scanLineRest_ofDocument (c : Cursor) : OfDocument (scanLineRest c) := by
  unfold scanLineRest
  dsimp only
  split <;> simp

@[simp] theorem scanDirective_ofDocument (c : Cursor) : OfDocument (scanDirective c) := by
  unfold scanDirective
  dsimp only
  split
  · simp
  · have ends (d : Directive) (c : Cursor) :
        OfDocument (do let c ← scanLineRest c; .ok (Token.directive d, c)) :=
      .bind (scanLineRest_ofDocument _) fun rest => by simp
    split
    · exact .bind (scanVersion_ofDocument _) fun major => ends _ _
    · split
      · exact .bind (scanTagDirective_ofDocument _) fun directive => ends _ _
      · exact ends _ _

@[simp] theorem scanName_ofDocument (c : Cursor) : OfDocument (scanName c) := by
  unfold scanName
  dsimp only
  split <;> simp

theorem scanTagParts_ofDocument (c : Cursor) : OfDocument (scanTagParts c) := by
  unfold scanTagParts
  split
  · refine .bind (scanAddress_ofDocument _) fun suffix => ?_
    dsimp only
    split <;> simp
  · split
    · simp
    · split
      · exact .bind (scanHandle_ofDocument _) fun handle =>
          .bind (scanAddress_ofDocument _) fun suffix => by simp
      · exact .bind (scanAddress_ofDocument _) fun suffix => by simp

@[simp] theorem scanTag_ofDocument (c : Cursor) : OfDocument (scanTag c) := by
  refine .bind (scanTagParts_ofDocument c) fun parts => ?_
  dsimp only
  split <;> simp

theorem scanIncrement_ofDocument (c : Cursor) : OfDocument (scanIncrement c) := by
  unfold scanIncrement
  split
  · split <;> simp
  · simp

theorem scanBlockHeader_ofDocument (c : Cursor) : OfDocument (scanBlockHeader c) := by
  have finish (chomping : Chomping) (increment : Option Nat) (c : Cursor) :
      OfDocument (if isSpaceOrEnd c.peek then .ok ((chomping, increment), c) else noToken) := by
    split <;> simp
  unfold scanBlockHeader
  dsimp only
  split
  · exact .bind (scanIncrement_ofDocument _) fun increment => finish _ _ _
  · refine .bind (scanIncrement_ofDocument _) fun increment => ?_
    split
    · exact finish _ _ _
    · exact finish _ _ _

@[simp] theorem scanBlockScalar_ofDocument (folded : Bool) (outer : Int) (c : Cursor) :
    OfDocument (scanBlockScalar folded outer c) :=
  .bind (scanBlockHeader_ofDocument _) fun header =>
    .bind (scanLineRest_ofDocument _) fun rest => by simp

/-! ### Quoted scalars -/

theorem scanEscapeCode_ofDocument (width : Nat) (c : Cursor) :
    OfDocument (scanEscapeCode width c) := by
  unfold scanEscapeCode
  dsimp only
  split
  · simp
  · split
    · simp
    · split
      · simp [Failure.isDocument]
      · simp

theorem quotedBreaks_ofDocument (fuel : Nat) (c : Cursor) (breaks : List Char) :
    OfDocument (quotedBreaks fuel c breaks) := by
  induction fuel generalizing c breaks with
  | zero => simp [quotedBreaks]
  | succ fuel ih =>
    unfold quotedBreaks
    split
    · simp
    · dsimp only
      split
      · exact ih _ _
      · simp

theorem quotedWord_ofDocument (double : Bool) (fuel : Nat) (c : Cursor) (read : List Nat) :
    OfDocument (quotedWord double fuel c read) := by
  induction fuel generalizing c read with
  | zero => simp [quotedWord]
  | succ fuel ih =>
    unfold quotedWord
    dsimp only
    split
    · exact ih _ _
    · split
      · exact ih _ _
      · split
        · split
          · exact ih _ _
          · exact .bind (scanEscapeCode_ofDocument _ _) fun code => ih _ _
          · split
            · exact .bind (quotedBreaks_ofDocument _ _ _) fun breaks => ih _ _
            · simp
        · simp

theorem quotedBlanks_ofDocument (c : Cursor) : OfDocument (quotedBlanks c) := by
  unfold quotedBlanks
  dsimp only
  split
  · simp
  · split
    · simp
    · exact .bind (quotedBreaks_ofDocument _ _ _) fun breaks => by simp

theorem quotedParts_ofDocument (quote : Char) (fuel : Nat) (c : Cursor) (read : List Nat) :
    OfDocument (quotedParts quote fuel c read) := by
  induction fuel generalizing c read with
  | zero => simp [quotedParts]
  | succ fuel ih =>
    unfold quotedParts
    split
    · simp
    · exact .bind (quotedBlanks_ofDocument _) fun blanks =>
        .bind (quotedWord_ofDocument _ _ _ _) fun word => ih _ _

@[simp] theorem scanQuoted_ofDocument (c : Cursor) : OfDocument (scanQuoted c) :=
  .bind (quotedWord_ofDocument _ _ _ _) fun first =>
    .bind (quotedParts_ofDocument _ _ _ _) fun rest => by simp

/-! ### The stream of tokens -/

namespace TokenStream

theorem dropStale_ofDocument (s : TokenStream) : OfDocument s.dropStale := by
  unfold dropStale
  split <;> simp

theorem dropKey_ofDocument (s : TokenStream) : OfDocument s.dropKey := by
  unfold dropKey
  split
  · simp
  · split <;> simp

theorem noteKey_ofDocument (s : TokenStream) : OfDocument s.noteKey := by
  unfold noteKey
  split
  · simp
  · exact .bind (dropKey_ofDocument s) fun s => by simp

/-- Giving up the pending key and going on without a fault. -/
theorem dropKey_bind_ofDocument (s : TokenStream) (k : TokenStream → TokenStream) :
    OfDocument (s.dropKey >>= fun s => pure (k s)) :=
  .bind (dropKey_ofDocument s) fun s => by simp

theorem readDirective_ofDocument (s : TokenStream) : OfDocument s.readDirective :=
  .bind (dropKey_ofDocument _) fun s => .bind (scanDirective_ofDocument _) fun directive => by simp

theorem readFlowStart_ofDocument (s : TokenStream) (t : Token) : OfDocument (s.readFlowStart t) :=
  .bind (noteKey_ofDocument _) fun s => by simp

theorem readBlockEntry_ofDocument (s : TokenStream) : OfDocument s.readBlockEntry := by
  unfold readBlockEntry
  split
  · exact dropKey_bind_ofDocument _ _
  · split
    · exact .bind noToken_ofDocument fun s => dropKey_bind_ofDocument _ _
    · exact dropKey_bind_ofDocument _ _

theorem readKey_ofDocument (s : TokenStream) : OfDocument s.readKey := by
  unfold readKey
  split
  · exact dropKey_bind_ofDocument _ _
  · split
    · exact .bind noToken_ofDocument fun s => dropKey_bind_ofDocument _ _
    · exact dropKey_bind_ofDocument _ _

theorem settleValue_ofDocument (s : TokenStream) : OfDocument s.settleValue := by
  unfold settleValue
  split
  · simp
  · split
    · exact dropKey_ofDocument _
    · split
      · simp
      · exact dropKey_ofDocument _

theorem readKeyLike_ofDocument (s : TokenStream)
    {scan : Cursor → Except Failure (Token × Cursor)} (hs : ∀ c, OfDocument (scan c)) :
    OfDocument (s.readKeyLike scan) :=
  .bind (noteKey_ofDocument _) fun s => .bind (hs _) fun read => by simp

theorem readBlockScalar_ofDocument (s : TokenStream) (folded : Bool) :
    OfDocument (s.readBlockScalar folded) :=
  .bind (dropKey_ofDocument _) fun s => .bind (scanBlockScalar_ofDocument _ _ _) fun read => by simp

theorem readToken_ofDocument (s : TokenStream) : OfDocument s.readToken :=
  .ite (dropKey_bind_ofDocument _ _) <|
  .ite (readDirective_ofDocument s) <|
  .ite (dropKey_bind_ofDocument _ _) <|
  .ite (dropKey_bind_ofDocument _ _) <|
  .ite (readFlowStart_ofDocument s _) <|
  .ite (readFlowStart_ofDocument s _) <|
  .ite (dropKey_bind_ofDocument _ _) <|
  .ite (dropKey_bind_ofDocument _ _) <|
  .ite (dropKey_bind_ofDocument _ _) <|
  .ite (readBlockEntry_ofDocument s) <|
  .ite (readKey_ofDocument s) <|
  .ite (.bind (settleValue_ofDocument s) fun s => by simp) <|
  .ite (readKeyLike_ofDocument s fun c => by simp) <|
  .ite (readKeyLike_ofDocument s fun c => by simp) <|
  .ite (readKeyLike_ofDocument s scanTag_ofDocument) <|
  .ite (readBlockScalar_ofDocument s _) <|
  .ite (readBlockScalar_ofDocument s _) <|
  .ite (readKeyLike_ofDocument s scanQuoted_ofDocument) <|
  .ite (.bind (noteKey_ofDocument _) fun s => by simp) noToken_ofDocument

theorem more_ofDocument (s : TokenStream) : OfDocument s.more :=
  .bind (dropStale_ofDocument _) fun _ => readToken_ofDocument _

theorem settle_ofDocument (fuel : Nat) (s : TokenStream) : OfDocument (settle fuel s) := by
  induction fuel generalizing s with
  | zero => simp [settle]
  | succ fuel ih =>
    unfold settle
    split
    · simp
    · split
      · exact .bind (more_ofDocument _) ih
      · refine .bind (dropStale_ofDocument _) fun s => ?_
        split
        · exact .bind (more_ofDocument _) ih
        · simp

theorem peek_ofDocument (s : TokenStream) : OfDocument s.peek :=
  .bind (settle_ofDocument _ _) fun s => by simp

end TokenStream

end Yaml

end CloudCredentials
