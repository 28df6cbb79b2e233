import CloudCredentials.Proofs.AmbientVariables
import CloudCredentials.Proofs.DescriptionLines
import CloudCredentials.Proofs.RefusedSecrets

/-!
# Texts of problems

What is reported of settings that are refused starts with the number of the problems and holds the
message of each. Whatever values the problems show, no terminal style comes into these texts, so
that a report tells how many problems there are and what each of them says.
-/

namespace CloudCredentials

/-! ### Texts without styles -/

namespace Text

/-- No terminal style starts in the text. -/
def Unstyled (s : String) : Prop := escapeChar ∉ s.toList

instance (s : String) : Decidable (Unstyled s) := inferInstanceAs (Decidable (_ ∉ _))

variable {s t : String} {cs : List Char}

theorem unstyled_append : Unstyled (s ++ t) ↔ Unstyled s ∧ Unstyled t := by
  unfold Unstyled
  rw [String.toList_append, List.mem_append, not_or]

theorem Unstyled.append (hs : Unstyled s) (ht : Unstyled t) : Unstyled (s ++ t) :=
  unstyled_append.mpr ⟨hs, ht⟩

theorem unstyled_ofList (h : escapeChar ∉ cs) : Unstyled (String.ofList cs) := by
  unfold Unstyled
  rwa [String.toList_ofList]

theorem Unstyled.intercalate {parts : List String} (hs : Unstyled s)
    (hp : ∀ part ∈ parts, Unstyled part) : Unstyled (s.intercalate parts) := by
  unfold Unstyled
  rw [String.toList_intercalate]
  intro h
  rcases mem_intercalate h with h | ⟨part, hpart, h⟩
  · exact hs h
  · obtain ⟨t, ht, rfl⟩ := List.mem_map.mp hpart
    exact hp t ht h

theorem withoutStyles_of_unstyled (h : Unstyled s) : withoutStyles s = s := by
  have happend := withoutStyles_append h ""
  have hempty : withoutStyles "" = "" := rfl
  rwa [hempty, String.append_empty] at happend

theorem AllPrintable.not_mem_escapeChar (h : AllPrintable cs) : escapeChar ∉ cs := by
  intro hc
  have hp := h _ hc
  have hn : isPrintable escapeChar = false := by decide
  rw [hn] at hp
  cases hp

theorem quoteCode_not_mem {q : Char} (hq : isPrintable q = true) (n : Nat) :
    escapeChar ∉ quoteCode q n := by
  have pair {c d : Char} (hc : isPrintable c = true) (hd : isPrintable d = true) :
      escapeChar ∉ [c, d] :=
    AllPrintable.not_mem_escapeChar (.cons hc (.cons hd .nil))
  have hb : isPrintable '\\' = true := by decide
  unfold quoteCode
  split
  · exact pair hb hq
  split
  · exact pair hb hb
  split
  · exact pair hb (by decide)
  split
  · exact pair hb (by decide)
  split
  · exact pair hb (by decide)
  split
  · rename_i hp
    intro h
    have hchar : escapeChar.toNat = (Char.ofNat n).toNat :=
      congrArg Char.toNat (List.mem_singleton.mp h)
    -- a code point that is no character is shown as the null character
    unfold Char.ofNat at hchar
    by_cases hv : n.isValidChar
    · rw [dif_pos hv] at hchar
      have hn : n = 27 := hchar.symm
      rw [hn] at hp
      exact absurd hp (by decide)
    · rw [dif_neg hv] at hchar
      exact absurd hchar (by decide)
  · exact (escapeCode_allPrintable n).not_mem_escapeChar

theorem quotedCodes_not_mem (codes : List Nat) : escapeChar ∉ quotedCodes codes := by
  have hq := quoteFor_isPrintable codes
  have hends : escapeChar ∉ [quoteFor codes] :=
    AllPrintable.not_mem_escapeChar (.cons hq .nil)
  unfold quotedCodes
  dsimp only
  intro h
  rcases List.mem_cons.mp h with h | h
  · exact hends (List.mem_singleton.mpr h)
  · rcases List.mem_append.mp h with h | h
    · obtain ⟨n, -, hn⟩ := List.mem_flatMap.mp h
      exact quoteCode_not_mem hq n hn
    · exact hends h

/-- A byte is shown as the code point of the same number, or by its number. -/
theorem quoteByte_cases (q : Char) (b : UInt8) :
    quoteByte q b = quoteCode q b.toNat ∨ quoteByte q b = escapeCode b.toNat := by
  have hb : b.toNat < 0x100 := b.toNat_lt
  unfold quoteByte quoteCode escapeCode
  dsimp only
  by_cases hp : (decide (0x20 ≤ b.toNat) && decide (b.toNat < 0x7F)) = true
  · have hcode : isPrintableCode b.toNat = true := by
      rw [Bool.and_eq_true, decide_eq_true_eq, decide_eq_true_eq] at hp
      rw [isPrintableCode, if_pos hp.2]
      exact decide_eq_true hp.1
    rw [if_pos hp, if_pos hcode]
    exact .inl rfl
  · rw [if_neg hp, if_pos hb]
    split
    · exact .inl rfl
    split
    · exact .inl rfl
    split
    · exact .inl rfl
    split
    · exact .inl rfl
    split
    · exact .inl rfl
    · exact .inr rfl

theorem quotedBytes_not_mem (content : List UInt8) : escapeChar ∉ quotedBytes content := by
  have hq := quoteFor_isPrintable (content.map UInt8.toNat)
  have hends : escapeChar ∉ [quoteFor (content.map UInt8.toNat)] :=
    AllPrintable.not_mem_escapeChar (.cons hq .nil)
  unfold quotedBytes
  dsimp only
  intro h
  rcases List.mem_append.mp h with h | h
  · rcases List.mem_cons.mp h with h | h
    · exact absurd h (by decide)
    · rcases List.mem_cons.mp h with h | h
      · exact hends (List.mem_singleton.mpr h)
      · obtain ⟨b, -, hb⟩ := List.mem_flatMap.mp h
        rcases quoteByte_cases (quoteFor (content.map UInt8.toNat)) b with he | he
        · rw [he] at hb
          exact quoteCode_not_mem hq _ hb
        · rw [he] at hb
          exact (escapeCode_allPrintable _).not_mem_escapeChar hb
  · exact hends h

theorem not_mem_toDigits (n : Nat) : escapeChar ∉ Nat.toDigits 10 n := by
  intro h
  have hd : escapeChar.isDigit = true := Nat.isDigit_of_mem_toDigits (by decide) (by decide) h
  exact absurd hd (by decide)

theorem unstyled_nat (n : Nat) : Unstyled (toString n) := by
  rw [Nat.toString_eq_ofList_toDigits]
  exact unstyled_ofList (not_mem_toDigits n)

theorem unstyled_int (n : Int) : Unstyled (toString n) := by
  cases n with
  | ofNat n => exact unstyled_nat n
  | negSucc n => exact .append (by decide) (unstyled_nat (n + 1))

theorem shorten_unstyled (h : Unstyled s) : Unstyled (shorten s) := by
  have taken (limit : Nat) (cs : List Char) (hc : escapeChar ∉ cs) :
      escapeChar ∉ takeBytes limit cs := by
    induction cs generalizing limit with
    | nil => exact hc
    | cons c rest ih =>
      rw [List.mem_cons, not_or] at hc
      unfold takeBytes
      split
      · rw [List.mem_cons, not_or]
        exact ⟨hc.1, ih _ hc.2⟩
      · exact List.not_mem_nil
  have hreverse : escapeChar ∉ s.toList.reverse := fun hm => h (List.mem_reverse.mp hm)
  unfold shorten
  split
  · exact h
  · refine .append (.append (unstyled_ofList (taken 25 _ h)) (by decide)) (unstyled_ofList ?_)
    exact fun hm => taken 24 _ hreverse (List.mem_reverse.mp hm)

end Text

open Text (Unstyled)

/-! ### Forms of values -/

theorem Number.exponentText_unstyled (e : Int) : Unstyled (Number.exponentText e) := by
  unfold Number.exponentText
  dsimp only
  refine .append ?_ ?_
  · split <;> decide
  · split
    · exact .append (by decide) (Text.unstyled_nat _)
    · exact Text.unstyled_nat _

theorem Number.Decimal.text_unstyled (d : Number.Decimal) : Unstyled d.text := by
  have hdigits : Text.escapeChar ∉ Number.trimZeros (Nat.toDigits 10 d.digits) := by
    unfold Number.trimZeros
    intro h
    have h := (List.dropWhile_suffix _).subset (List.mem_reverse.mp h)
    exact Text.not_mem_toDigits _ (List.mem_reverse.mp h)
  have hzeros (n : Nat) : Text.escapeChar ∉ List.replicate n '0' := by
    intro h
    exact absurd (List.eq_of_mem_replicate h) (by decide)
  unfold Number.Decimal.text
  dsimp only
  generalize Number.trimZeros (Nat.toDigits 10 d.digits) = digits at hdigits
  split
  · split
    · refine .append (by decide) (Text.unstyled_ofList ?_)
      rw [List.mem_append, not_or]
      exact ⟨hzeros _, hdigits⟩
    · split
      · refine .append (Text.unstyled_ofList ?_) (by decide)
        rw [List.mem_append, not_or]
        exact ⟨hdigits, hzeros _⟩
      · refine .append (.append (Text.unstyled_ofList ?_) (by decide)) (Text.unstyled_ofList ?_)
        · exact fun h => hdigits (List.mem_of_mem_take h)
        · exact fun h => hdigits (List.mem_of_mem_drop h)
  · split
    · decide
    · exact .append (Text.unstyled_ofList hdigits) (Number.exponentText_unstyled _)
    · rename_i c rest _
      refine .append (Text.unstyled_ofList ?_) (Number.exponentText_unstyled _)
      rw [List.mem_cons, not_or] at hdigits ⊢
      refine ⟨hdigits.1, ?_⟩
      rw [List.mem_cons, not_or]
      exact ⟨by decide, hdigits.2⟩

theorem Number.text_unstyled (x : Float) : Unstyled (Number.text x) := by
  unfold Number.text
  dsimp only
  have hsign : Unstyled (if x.toBits.toNat / Nat.pow 2 63 = 1 then "-" else "") := by
    split <;> decide
  split
  · split
    · exact .append hsign (by decide)
    · decide
  · split
    · exact .append hsign (by decide)
    · exact .append hsign (Number.Decimal.text_unstyled _)

theorem callText_unstyled {name : String} {arguments : List String} (hn : Unstyled name)
    (ha : ∀ a ∈ arguments, Unstyled a) : Unstyled (callText name arguments) :=
  .append (.append (.append hn (by decide)) (.intercalate (by decide) ha)) (by decide)

theorem offsetLiteral_unstyled (offset : Int) : Unstyled (offsetLiteral offset) := by
  unfold offsetLiteral
  split
  · decide
  · refine callText_unstyled (by decide) ?_
    intro a ha
    rw [List.mem_singleton.mp ha]
    refine callText_unstyled (by decide) ?_
    intro part hp
    rcases List.mem_append.mp hp with hp | hp <;> split at hp
    · cases hp
    · rw [List.mem_singleton.mp hp]
      exact .append (by decide) (Text.unstyled_int _)
    · cases hp
    · rw [List.mem_singleton.mp hp]
      exact .append (by decide) (Text.unstyled_int _)

theorem timestampLiteral_unstyled (t : Time.Timestamp) : Unstyled (timestampLiteral t) := by
  unfold timestampLiteral
  dsimp only
  refine callText_unstyled (by decide) ?_
  intro a ha
  rcases List.mem_append.mp ha with ha | ha
  · obtain ⟨n, -, rfl⟩ := List.mem_map.mp ha
    exact Text.unstyled_int n
  · split at ha
    · rw [List.mem_singleton.mp ha]
      exact .append (by decide) (offsetLiteral_unstyled _)
    · cases ha

theorem dateLiteral_unstyled (d : Time.Date) : Unstyled (dateLiteral d) := by
  refine callText_unstyled (by decide) ?_
  intro a ha
  rcases List.mem_cons.mp ha with rfl | ha
  · exact Text.unstyled_nat _
  · rcases List.mem_cons.mp ha with rfl | ha
    · exact Text.unstyled_nat _
    · rw [List.mem_singleton.mp ha]
      exact Text.unstyled_nat _

mutual

/-- No value is shown with a style. -/
theorem Value.literal_unstyled (v : Value) : Unstyled v.literal := by
  cases v with
  | null => decide
  | bool b => cases b <;> decide
  | int n => exact Text.unstyled_int n
  | float x => exact Number.text_unstyled x
  | text s => exact Text.unstyled_ofList (Text.quotedCodes_not_mem _)
  | brokenText codes => exact Text.unstyled_ofList (Text.quotedCodes_not_mem codes)
  | bytes content => exact Text.unstyled_ofList (Text.quotedBytes_not_mem content)
  | date d => exact dateLiteral_unstyled d
  | time t => exact timestampLiteral_unstyled t
  | list items =>
    exact .append (.append (by decide) (.intercalate (by decide) (literals_unstyled items)))
      (by decide)
  | pair a b =>
    exact .append (.append (.append (.append (by decide) a.literal_unstyled) (by decide))
      b.literal_unstyled) (by decide)
  | set items =>
    have hitems := literals_unstyled items
    cases items with
    | nil => decide
    | cons item rest =>
      exact .append (.append (by decide) (.intercalate (by decide) hitems)) (by decide)
  | map entries =>
    exact .append (.append (by decide) (.intercalate (by decide) (entryLiterals_unstyled entries)))
      (by decide)

theorem literals_unstyled (items : List Value) : ∀ s ∈ literals items, Unstyled s := by
  cases items with
  | nil =>
    intro s hs
    cases hs
  | cons item rest =>
    intro s hs
    rcases List.mem_cons.mp hs with rfl | hs
    · exact item.literal_unstyled
    · exact literals_unstyled rest s hs

theorem entryLiterals_unstyled (entries : List (Value × Value)) :
    ∀ s ∈ entryLiterals entries, Unstyled s := by
  cases entries with
  | nil =>
    intro s hs
    cases hs
  | cons entry rest =>
    obtain ⟨key, value⟩ := entry
    intro s hs
    rcases List.mem_cons.mp hs with rfl | hs
    · exact .append (.append key.literal_unstyled (by decide)) value.literal_unstyled
    · exact entryLiterals_unstyled rest s hs

end

theorem Value.kindName_unstyled (v : Value) : Unstyled v.kindName := by
  unfold Value.kindName
  split <;> decide

/-! ### Messages -/

/-- The rule is told without styles. -/
def Rule.IsPlain (r : Rule) : Prop := Unstyled r.message ∧ Unstyled r.name

theorem Problem.reason_unstyled {p : Problem} (h : p.rule.IsPlain) : Unstyled p.reason := by
  have hvalue : Unstyled (shorten p.value.literal) := Text.shorten_unstyled p.value.literal_unstyled
  unfold Problem.reason
  refine .append (.append (.append (.append ?_ hvalue) (by decide)) p.value.kindName_unstyled)
    (by decide)
  exact .append (.append (.append (.append (by decide) h.1) (by decide)) h.2) (by decide)

/-- A problem whose place and rule are told without styles is. -/
structure Problem.IsPlain (p : Problem) : Prop where
  location : ∀ name ∈ p.location, Unstyled name
  rule : p.rule.IsPlain

theorem Problem.IsPlain.message {p : Problem} (h : p.IsPlain) : Unstyled p.message := by
  rw [Problem.message_eq]
  exact .append (.intercalate (by decide) h.location) (reason_unstyled h.rule)

namespace Checked

variable {α β : Type} {r : Checked α}

/-- Whatever problems there are, they are told without styles. -/
def IsPlain (r : Checked α) : Prop := ∀ p ∈ r.problems, p.IsPlain

theorem isPlain_ok (a : α) : IsPlain (.ok a) := by
  intro p hp
  cases hp

theorem isPlain_refuse {rule : Rule} (h : rule.IsPlain) (v : Value) :
    IsPlain (refuse rule v : Checked α) := by
  intro p hp
  rw [List.mem_singleton.mp hp]
  refine ⟨?_, h⟩
  intro name hn
  cases hn

theorem IsPlain.map (h : IsPlain r) (f : α → β) : IsPlain (r.map f) := by
  unfold IsPlain
  rwa [problems_map]

theorem IsPlain.apply {f : Checked (α → β)} (hf : IsPlain f) (h : IsPlain r) :
    IsPlain (apply f r) := by
  intro p hp
  rw [problems_apply] at hp
  rcases List.mem_append.mp hp with hp | hp
  · exact hf p hp
  · exact h p hp

theorem isPlain_field (m : Mapping) {name : String} (default : α) {check : Value → Checked α}
    (hn : Unstyled name) (h : ∀ v, IsPlain (check v)) : IsPlain (field m name default check) := by
  intro p hp
  rw [problems_field] at hp
  obtain ⟨q, hq, rfl⟩ := List.mem_map.mp hp
  cases hg : m.get? name with
  | none =>
    rw [hg] at hq
    cases hq
  | some v =>
    rw [hg] at hq
    have hplain := h v q hq
    refine ⟨fun part hpart => ?_, hplain.rule⟩
    rcases List.mem_cons.mp hpart with rfl | hpart
    · exact hn
    · exact hplain.location part hpart

end Checked

open Checked (IsPlain)

instance (r : Rule) : Decidable r.IsPlain := inferInstanceAs (Decidable (_ ∧ _))

theorem checkText_isPlain (v : Value) : IsPlain (checkText v) := by
  unfold checkText
  split
  · exact Checked.isPlain_ok _
  · exact Checked.isPlain_refuse (by decide) _
  · split
    · exact Checked.isPlain_ok _
    · exact Checked.isPlain_refuse (by decide) _
  · exact Checked.isPlain_refuse (by decide) _

theorem checkOptionalText_isPlain (v : Value) : IsPlain (checkOptionalText v) := by
  unfold checkOptionalText
  split
  · exact Checked.isPlain_ok _
  · exact (checkText_isPlain _).map _

theorem checkOptionalPath_isPlain (v : Value) : IsPlain (checkOptionalPath v) := by
  unfold checkOptionalPath
  split
  · exact Checked.isPlain_ok _
  · exact Checked.isPlain_ok _
  · exact Checked.isPlain_refuse (by decide) _

theorem checkBool_isPlain (v : Value) : IsPlain (checkBool v) := by
  have word (b : Option Bool) : IsPlain (checkBool.ofWord v b) := by
    cases b with
    | none => exact Checked.isPlain_refuse (by decide) _
    | some b => exact Checked.isPlain_ok _
  have int (n : Int) : IsPlain (checkBoolInt n v) := by
    unfold checkBoolInt
    split
    · exact Checked.isPlain_ok _
    · split
      · exact Checked.isPlain_ok _
      · exact Checked.isPlain_refuse (by decide) _
  unfold checkBool
  split
  · exact Checked.isPlain_ok _
  · exact word _
  · exact Checked.isPlain_refuse (by decide) _
  · exact word _
  · split
    · exact int _
    · exact Checked.isPlain_refuse (by decide) _
  · split
    · split
      · exact int _
      · exact Checked.isPlain_refuse (by decide) _
    · exact Checked.isPlain_refuse (by decide) _
  · exact Checked.isPlain_refuse (by decide) _

theorem checkSection_isPlain {title : String} (ht : (Rule.mapping title).IsPlain) (v : Value) :
    IsPlain (checkSection title v) := by
  unfold checkSection
  split
  · exact Checked.isPlain_ok _
  · exact Checked.isPlain_refuse ht _

theorem checkOptionalSection_isPlain {α : Type} {title : String} {check : Mapping → Checked α}
    (ht : (Rule.mapping title).IsPlain) (h : ∀ m, IsPlain (check m)) (v : Value) :
    IsPlain (checkOptionalSection title check v) := by
  have hsection := checkSection_isPlain ht v
  unfold checkOptionalSection
  split
  · exact Checked.isPlain_ok _
  · split
    · exact (h _).map _
    · rename_i hs
      rw [hs] at hsection
      exact hsection

theorem checkGivenSection_isPlain {α : Type} {title : String} {check : Mapping → Checked α}
    (ht : (Rule.mapping title).IsPlain) (h : ∀ m, IsPlain (check m)) (v : Value) :
    IsPlain (checkGivenSection title check v) := by
  have hsection := checkSection_isPlain ht v
  unfold checkGivenSection
  split
  · exact h _
  · rename_i hs
    rw [hs] at hsection
    exact hsection

theorem checkProfile_isPlain (m : Mapping) : IsPlain (checkProfile m) :=
  .apply (.map (Checked.isPlain_field m _ (by decide) checkOptionalText_isPlain) _)
    (Checked.isPlain_field m _ (by decide) checkOptionalPath_isPlain)

theorem checkSts_isPlain (m : Mapping) : IsPlain (checkSts m) :=
  .apply (.apply (.apply (.apply (.map (Checked.isPlain_field m _ (by decide) checkBool_isPlain) _)
    (Checked.isPlain_field m _ (by decide) checkOptionalText_isPlain))
    (Checked.isPlain_field m _ (by decide) checkOptionalPath_isPlain))
    (Checked.isPlain_field m _ (by decide) checkBool_isPlain))
    (Checked.isPlain_field m _ (by decide) checkOptionalText_isPlain)

theorem checkCredentials_isPlain (m : Mapping) : IsPlain (checkCredentials m) := by
  have hprofile (v : Value) : IsPlain (checkOptionalSection profileTitle checkProfile v) :=
    checkOptionalSection_isPlain (by decide) checkProfile_isPlain v
  have hsts (v : Value) : IsPlain (checkOptionalSection stsTitle checkSts v) :=
    checkOptionalSection_isPlain (by decide) checkSts_isPlain v
  exact .apply (.apply (.apply (.apply
    (.map (Checked.isPlain_field m _ (by decide) checkOptionalText_isPlain) _)
    (Checked.isPlain_field m _ (by decide) checkOptionalText_isPlain))
    (Checked.isPlain_field m _ (by decide) checkBool_isPlain))
    (Checked.isPlain_field m _ (by decide) hprofile))
    (Checked.isPlain_field m _ (by decide) hsts)

theorem checkRegion_isPlain (m : Mapping) : IsPlain (checkRegion m) :=
  .map (Checked.isPlain_field m _ (by decide) checkOptionalText_isPlain) _

/-- The problems of settings are told without styles, whatever the values hold. -/
theorem checkSettings_isPlain (m : Mapping) : IsPlain (checkSettings m) := by
  have hcredentials (v : Value) :
      IsPlain (checkGivenSection credentialsTitle checkCredentials v) :=
    checkGivenSection_isPlain (by decide) checkCredentials_isPlain v
  have hregion (v : Value) : IsPlain (checkGivenSection regionTitle checkRegion v) :=
    checkGivenSection_isPlain (by decide) checkRegion_isPlain v
  exact .apply (.map (Checked.isPlain_field m _ (by decide) hcredentials) _)
    (Checked.isPlain_field m _ (by decide) hregion)

/-! ### The text of all problems -/

theorem intercalate_around (sep : String) (xs ys : List String) :
    ∃ before after, ∀ s, sep.intercalate (xs ++ s :: ys) = before ++ s ++ after := by
  induction xs with
  | nil =>
    cases ys with
    | nil =>
      refine ⟨"", "", fun s => ?_⟩
      rw [List.nil_append, String.intercalate_singleton, String.empty_append, String.append_empty]
    | cons y ys =>
      refine ⟨"", sep ++ sep.intercalate (y :: ys), fun s => ?_⟩
      rw [List.nil_append, String.intercalate_cons_cons, String.empty_append, String.append_assoc]
  | cons x xs ih =>
    obtain ⟨before, after, h⟩ := ih
    refine ⟨x ++ sep ++ before, after, fun s => ?_⟩
    have hne : xs ++ s :: ys ≠ [] := by simp
    rw [List.cons_append, String.intercalate_cons_of_ne_nil hne, h s]
    simp only [String.append_assoc]

theorem problemsMessage_eq (title : String) (ps : List Problem) :
    ∃ rest, problemsMessage title ps = toString ps.length ++ (" " ++ rest) := by
  unfold problemsMessage
  dsimp only
  have hword : (if ps.length = 1 then " validation error for " else " validation errors for ") =
      " " ++ if ps.length = 1 then "validation error for " else "validation errors for " := by
    split <;> rfl
  rw [hword, String.append_assoc, String.append_assoc, String.intercalate_cons_append,
    String.intercalate_cons_append]
  exact ⟨_, rfl⟩

theorem problemsMessage_unstyled {title : String} {ps : List Problem} (ht : Unstyled title)
    (h : ∀ p ∈ ps, p.IsPlain) : Unstyled (problemsMessage title ps) := by
  refine .intercalate (by decide) fun s hs => ?_
  rcases List.mem_cons.mp hs with rfl | hs
  · refine .append (.append (Text.unstyled_nat _) ?_) ht
    split <;> decide
  · obtain ⟨p, hp, rfl⟩ := List.mem_map.mp hs
    exact (h p hp).message

/-- A text that starts with a number tells it, when a space follows. -/
theorem nat_eq_of_append {n k : Nat} {s t : String}
    (h : toString n ++ (" " ++ s) = toString k ++ (" " ++ t)) : n = k := by
  have digits (n : Nat) (s : String) :
      (toString n ++ (" " ++ s)).toList.takeWhile Char.isDigit = (toString n).toList := by
    have hall : ∀ c ∈ (toString n).toList, c.isDigit = true := by
      intro c hc
      rw [Nat.toString_eq_ofList_toDigits, String.toList_ofList] at hc
      exact Nat.isDigit_of_mem_toDigits (by decide) (by decide) hc
    have hrest : (" " ++ s).toList.takeWhile Char.isDigit = [] := by
      rw [String.toList_append]
      rfl
    rw [String.toList_append, List.takeWhile_append_of_pos hall, hrest, List.append_nil]
  have hlists : (toString n).toList = (toString k).toList := by
    rw [← digits n s, h, digits k t]
  rw [Nat.toString_eq_ofList_toDigits, Nat.toString_eq_ofList_toDigits, String.toList_ofList,
    String.toList_ofList] at hlists
  rw [← Nat.ofDigitChars_ten_toDigits (n := n), hlists, Nat.ofDigitChars_ten_toDigits]

/-- The text tells how many problems there are. -/
theorem length_eq_of_problemsMessage {title : String} {ps qs : List Problem}
    (h : problemsMessage title ps = problemsMessage title qs) : ps.length = qs.length := by
  obtain ⟨rest, hp⟩ := problemsMessage_eq title ps
  obtain ⟨rest', hq⟩ := problemsMessage_eq title qs
  rw [hp, hq] at h
  exact nat_eq_of_append h

/-- The text tells what a problem says when the others are known. -/
theorem message_eq_of_problemsMessage {title : String} {before after : List Problem}
    {p q : Problem} (h : problemsMessage title (before ++ p :: after) =
      problemsMessage title (before ++ q :: after)) : p.message = q.message := by
  unfold problemsMessage at h
  dsimp only at h
  rw [List.length_append, List.length_append, List.length_cons, List.length_cons, List.map_append,
    List.map_append, List.map_cons, List.map_cons, ← List.cons_append, ← List.cons_append] at h
  obtain ⟨first, last, haround⟩ := intercalate_around "\n" (_ :: before.map Problem.message)
    (after.map Problem.message)
  rw [haround, haround] at h
  exact (String.append_right_inj first).mp ((String.append_left_inj last).mp h)

theorem complaintLine_inj {s t : String} (hs : Unstyled s) (ht : Unstyled t)
    (h : CommandLine.complaintLine s = CommandLine.complaintLine t) : s = t := by
  rw [CommandLine.complaintLine_eq, CommandLine.complaintLine_eq, Text.withoutStyles_of_unstyled hs,
    Text.withoutStyles_of_unstyled ht] at h
  exact (String.append_right_inj _).mp ((String.append_left_inj _).mp h)

end CloudCredentials
