/-!
# Blank text

Which characters count as blank, and the operations that look at blanks only: the test for a
text with no visible character, and the removal of blanks at the ends.
-/

namespace CloudCredentials.Text

/-! ### Blank characters -/

/-- The blank characters: the separators of Unicode, the tabulation and line controls, and the
four information separators. -/
def isBlankChar (c : Char) : Bool :=
  let n := c.toNat
  (9 ≤ n && n ≤ 13) || (28 ≤ n && n ≤ 32) || n == 0x85 || n == 0xA0 || n == 0x1680 ||
    (0x2000 ≤ n && n ≤ 0x200A) || n == 0x2028 || n == 0x2029 || n == 0x202F || n == 0x205F ||
    n == 0x3000

/-! ### Blank texts -/

/-- A text is blank when all its characters are; the empty text is blank. -/
def isBlank (s : String) : Bool := s.toList.all isBlankChar

def hasText : Option String → Bool
  | none => false
  | some s => !isBlank s

theorem isBlank_empty : isBlank "" = true := by simp [isBlank]

theorem ne_empty_of_hasText {s : String} (h : hasText (some s) = true) : s ≠ "" := by
  rintro rfl
  simp [hasText, isBlank_empty] at h

/-! ### Removal at the ends -/

def dropRightWhile (p : Char → Bool) (cs : List Char) : List Char :=
  (cs.reverse.dropWhile p).reverse

def trimLeft (cs : List Char) : List Char := cs.dropWhile isBlankChar

def trimRight (cs : List Char) : List Char := dropRightWhile isBlankChar cs

def trim (cs : List Char) : List Char := trimRight (trimLeft cs)

end CloudCredentials.Text
