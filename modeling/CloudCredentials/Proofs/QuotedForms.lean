import CloudCredentials.Proofs.DescriptionLines
import Mathlib.Algebra.Group.Nat.Defs

/-!
# Reading quoted text back

The quoted form of a text tells where it ends and what the text is, whatever stands behind it: each
form of a character can be read back, and no such form starts with the quote that ends the text.
A missing text is told from every given one.
-/

namespace CloudCredentials.Text

/-! ### Numbers of escapes -/

def hexValue (c : Char) : Nat := if c.toNat < 0x3A then c.toNat - 0x30 else c.toNat - 0x57

def hexNumber (digits : List Char) : Nat := digits.foldl (fun n c => n * 16 + hexValue c) 0

theorem hexValue_hexDigit (n : Nat) : hexValue (hexDigit n) = n % 16 := by
  have h : ∀ d < 16, hexValue (Nat.digitChar d) = d := by decide
  exact h _ (Nat.mod_lt n (by omega))

theorem hexNumber_hexDigits (width n : Nat) : hexNumber (hexDigits width n) = n % 16 ^ width := by
  induction width generalizing n with
  | zero => exact (Nat.mod_one n).symm
  | succ width ih =>
    have hlast : hexNumber (hexDigits (width + 1) n) =
        hexNumber (hexDigits width (n / 16)) * 16 + hexValue (hexDigit n) :=
      List.foldl_append
    rw [hlast, ih, hexValue_hexDigit, Nat.pow_succ', Nat.mod_mul]
    omega

/-! ### Characters -/

/-- How many digits follow the letter of an escape. -/
def escapeWidth (letter : Char) : Nat :=
  if letter = 'x' then 2 else if letter = 'u' then 4 else if letter = 'U' then 8 else 0

/-- The code point that an escape of one letter stands for. -/
def letterCode (letter : Char) : Nat :=
  if letter = 'n' then 10 else if letter = 'r' then 13 else if letter = 't' then 9
  else letter.toNat

/-- The code point of the form that a text starts with, and the rest of the text. -/
def readCode : List Char → Nat × List Char
  | [] => (0, [])
  | [c] => (c.toNat, [])
  | c :: letter :: rest =>
    if c ≠ '\\' then (c.toNat, letter :: rest)
    else if escapeWidth letter = 0 then (letterCode letter, rest)
    else (hexNumber (rest.take (escapeWidth letter)), rest.drop (escapeWidth letter))

theorem readCode_plain {c : Char} (hc : c ≠ '\\') (rest : List Char) :
    readCode (c :: rest) = (c.toNat, rest) := by
  cases rest with
  | nil => rfl
  | cons d rest => exact if_pos hc

theorem readCode_letter {letter : Char} (h : escapeWidth letter = 0) (rest : List Char) :
    readCode ('\\' :: letter :: rest) = (letterCode letter, rest) := by
  rw [readCode, if_neg (not_not.mpr rfl), if_pos h]

theorem readCode_number (letter : Char) (h : escapeWidth letter ≠ 0) {n : Nat}
    (hn : n < 16 ^ escapeWidth letter) (rest : List Char) :
    readCode ('\\' :: letter :: (hexDigits (escapeWidth letter) n ++ rest)) = (n, rest) := by
  have hlength := length_hexDigits (escapeWidth letter) n
  rw [readCode, if_neg (not_not.mpr rfl), if_neg h, List.take_left' hlength,
    List.drop_left' hlength, hexNumber_hexDigits, Nat.mod_eq_of_lt hn]

theorem readCode_escapeCode {n : Nat} (hn : n < 0x110000) (rest : List Char) :
    readCode (escapeCode n ++ rest) = (n, rest) := by
  unfold escapeCode
  split
  · rename_i hwidth
    exact readCode_number 'x' (by decide) hwidth rest
  · split
    · rename_i hwidth
      exact readCode_number 'u' (by decide) hwidth rest
    · have hwidth : n < 16 ^ escapeWidth 'U' := Nat.lt_trans hn (by decide)
      exact readCode_number 'U' (by decide) hwidth rest

def IsQuote (q : Char) : Prop := q = singleQuote ∨ q = doubleQuote

instance (q : Char) : Decidable (IsQuote q) := inferInstanceAs (Decidable (_ ∨ _))

theorem quoteFor_isQuote (codes : List Nat) : IsQuote (quoteFor codes) := by
  unfold quoteFor
  split
  · exact .inr rfl
  · exact .inl rfl

section Forms

variable {q : Char} (hq : IsQuote q) {n : Nat} (hn : n < 0x110000)

include hq hn

theorem readCode_quoteCode (rest : List Char) : readCode (quoteCode q n ++ rest) = (n, rest) := by
  have letter (c : Char) (hc : escapeWidth c = 0) (hcode : n = letterCode c) :
      readCode ('\\' :: c :: rest) = (n, rest) := by
    rw [readCode_letter hc, hcode]
  unfold quoteCode
  split
  · rename_i h
    rcases hq with rfl | rfl
    · exact letter singleQuote (by decide) h
    · exact letter doubleQuote (by decide) h
  split
  · exact letter '\\' (by decide) ‹n = 0x5C›
  split
  · exact letter 'n' (by decide) ‹n = 10›
  split
  · exact letter 'r' (by decide) ‹n = 13›
  split
  · exact letter 't' (by decide) ‹n = 9›
  split
  · rename_i hbackslash _ _ _ hp
    have hcode := toNat_ofNat_of_isPrintableCode hn hp
    have hplain : Char.ofNat n ≠ '\\' := by
      intro h
      rw [h] at hcode
      exact hbackslash hcode.symm
    rw [List.singleton_append, readCode_plain hplain, hcode]
  · exact readCode_escapeCode hn rest

/-- No form of a code point starts like the end of the text. -/
theorem quoteCode_ne_quote (rest after : List Char) : quoteCode q n ++ rest ≠ q :: after := by
  have hbackslash : '\\' ≠ q := by
    rcases hq with rfl | rfl <;> decide
  have escaped {cs : List Char} : '\\' :: cs ++ rest ≠ q :: after :=
    fun h => hbackslash (List.cons.inj h).1
  unfold quoteCode
  split
  · exact escaped
  split
  · exact escaped
  split
  · exact escaped
  split
  · exact escaped
  split
  · exact escaped
  split
  · rename_i hquote _ _ _ _ hp
    intro h
    have hcode := toNat_ofNat_of_isPrintableCode hn hp
    rw [(List.cons.inj h).1] at hcode
    exact hquote hcode.symm
  · unfold escapeCode
    split
    · exact escaped
    · split
      · exact escaped
      · exact escaped

end Forms

/-! ### Texts -/

/-- Equal forms up to the quote, with anything behind it, are forms of the same code points. -/
theorem flatMap_quoteCode_append_inj {q : Char} (hq : IsQuote q) {codes codes' : List Nat}
    (h : ∀ n ∈ codes, n < 0x110000) (h' : ∀ n ∈ codes', n < 0x110000) {x y : List Char}
    (he : codes.flatMap (quoteCode q) ++ q :: x = codes'.flatMap (quoteCode q) ++ q :: y) :
    codes = codes' ∧ x = y := by
  induction codes generalizing codes' with
  | nil =>
    cases codes' with
    | nil => exact ⟨rfl, (List.cons.inj he).2⟩
    | cons m rest' =>
      rw [List.flatMap_cons, List.append_assoc] at he
      exact absurd he.symm (quoteCode_ne_quote hq (h' m List.mem_cons_self) _ _)
  | cons n rest ih =>
    obtain ⟨hn, hrest⟩ := List.forall_mem_cons.mp h
    rw [List.flatMap_cons, List.append_assoc] at he
    cases codes' with
    | nil => exact absurd he (quoteCode_ne_quote hq hn _ _)
    | cons m rest' =>
      obtain ⟨hm, hrest'⟩ := List.forall_mem_cons.mp h'
      rw [List.flatMap_cons, List.append_assoc] at he
      have hread := congrArg readCode he
      rw [readCode_quoteCode hq hn, readCode_quoteCode hq hm] at hread
      obtain ⟨rfl, hafter⟩ := Prod.mk.inj hread
      obtain ⟨rfl, hxy⟩ := ih hrest hrest' hafter
      exact ⟨rfl, hxy⟩

theorem quotedCodes_append_inj {codes codes' : List Nat} (h : ∀ n ∈ codes, n < 0x110000)
    (h' : ∀ n ∈ codes', n < 0x110000) {x y : List Char}
    (he : quotedCodes codes ++ x = quotedCodes codes' ++ y) : codes = codes' ∧ x = y := by
  unfold quotedCodes at he
  dsimp only at he
  rw [List.append_assoc, List.append_assoc, List.cons_append, List.cons_append] at he
  -- both forms start with their quotes, so that these are the same
  obtain ⟨hq, hbody⟩ := List.cons.inj he
  rw [← hq] at hbody
  exact flatMap_quoteCode_append_inj (quoteFor_isQuote codes) h h' hbody

variable {s t x y : String}

/-- A quoted text tells the text and what stands behind it. -/
theorem quoted_append_inj (h : quoted s ++ x = quoted t ++ y) : s = t ∧ x = y := by
  have hlists := congrArg String.toList h
  rw [String.toList_append, String.toList_append, quoted, quoted, String.toList_ofList,
    String.toList_ofList] at hlists
  obtain ⟨hcodes, hrest⟩ := quotedCodes_append_inj (forall_mem_codes_lt s) (forall_mem_codes_lt t)
    hlists
  have hchars := List.map_injective_iff.mpr (fun _ _ => Char.toNat_inj.mp) hcodes
  exact ⟨String.toList_inj.mp hchars, String.toList_inj.mp hrest⟩

theorem quoted_ne_append {word : String} {c : Char} (hw : word.toList.head? = some c)
    (hc : ¬ IsQuote c) : quoted s ++ x ≠ word ++ y := by
  intro h
  obtain ⟨rest, hrest⟩ := List.head?_eq_some_iff.mp hw
  have hlists := congrArg String.toList h
  rw [String.toList_append, String.toList_append, hrest, quoted, String.toList_ofList] at hlists
  obtain ⟨hfirst, -⟩ := List.cons.inj hlists
  exact hc (hfirst ▸ quoteFor_isQuote _)

/-- A text that may be missing is told, too: what stands for a missing text has no quotes. -/
theorem quotedOption_append_inj {s t : Option String}
    (h : quotedOption s ++ x = quotedOption t ++ y) : s = t ∧ x = y := by
  cases s with
  | none =>
    cases t with
    | none => exact ⟨rfl, (String.append_right_inj _).mp h⟩
    | some t => exact absurd h.symm (quoted_ne_append rfl (by decide))
  | some s =>
    cases t with
    | none => exact absurd h (quoted_ne_append rfl (by decide))
    | some t =>
      obtain ⟨rfl, hxy⟩ := quoted_append_inj h
      exact ⟨rfl, hxy⟩

end CloudCredentials.Text
