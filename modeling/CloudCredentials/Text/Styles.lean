/-!
# Terminal styles

Text that is not written to a terminal is written without the sequences that set styles there: an
escape character, a bracket, parameters and a letter.
-/

namespace CloudCredentials.Text

def escapeChar : Char := Char.ofNat 27

def isStyleParameter (c : Char) : Bool := c = ';' || c = '?' || c.isDigit

def afterStyle? (cs : List Char) : Option (List Char) :=
  match cs.dropWhile isStyleParameter with
  | c :: rest => if c.isAlpha then some rest else none
  | [] => none

/-- Characters without the sequences among them. The fuel bounds their number. -/
def dropStyles : Nat → List Char → List Char
  | 0, cs => cs
  | _, [] => []
  | fuel + 1, c :: rest =>
    match rest with
    | '[' :: parameters =>
      match (if c = escapeChar then afterStyle? parameters else none) with
      | some after => dropStyles fuel after
      | none => c :: dropStyles fuel rest
    | _ => c :: dropStyles fuel rest

def withoutStyles (s : String) : String :=
  String.ofList (dropStyles (s.length + 1) s.toList)

theorem dropStyles_cons {c : Char} (h : c ≠ escapeChar) (fuel : Nat) (rest : List Char) :
    dropStyles (fuel + 1) (c :: rest) = c :: dropStyles fuel rest := by
  conv => lhs; unfold dropStyles
  split
  · rw [if_neg h]
  · rfl

/-- Characters without an escape character among them stay in front of what follows them. -/
theorem dropStyles_append {cs : List Char} (h : escapeChar ∉ cs) (fuel : Nat) (rest : List Char) :
    dropStyles (cs.length + fuel) (cs ++ rest) = cs ++ dropStyles fuel rest := by
  induction cs with
  | nil => simp
  | cons c cs ih =>
    have hc : c ≠ escapeChar := fun e => h (e ▸ List.mem_cons_self ..)
    have hlength : (c :: cs).length + fuel = cs.length + fuel + 1 := by
      rw [List.length_cons]
      omega
    rw [hlength, List.cons_append, List.cons_append, dropStyles_cons hc,
      ih fun m => h (List.mem_cons_of_mem _ m)]

theorem withoutStyles_append {s : String} (h : escapeChar ∉ s.toList) (t : String) :
    withoutStyles (s ++ t) = s ++ withoutStyles t := by
  have hlength : (s ++ t).length + 1 = s.toList.length + (t.length + 1) := by
    rw [String.length_append, String.length_toList]
    omega
  unfold withoutStyles
  rw [hlength, String.toList_append, dropStyles_append h, String.ofList_append,
    String.ofList_toList]

end CloudCredentials.Text
