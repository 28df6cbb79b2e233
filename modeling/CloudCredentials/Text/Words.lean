/-!
# Words of a command line

A line is split into words at blanks. Quotes keep blanks inside a word; a backslash makes the next
character plain, inside double quotes only when that character is a double quote or a backslash.
-/

namespace CloudCredentials.Text

inductive WordState
  | outside
  | inside
  | quoted (q : Char)
  | escaped (q : Option Char)
  deriving DecidableEq, Repr

def isWordBlank (c : Char) : Bool := c = ' ' || c = '\t' || c = '\r' || c = '\n'

def isQuote (c : Char) : Bool := c = '\x22' || c = '\x27'

/-- Split a line; `word` is the word that is being read, in reverse. None when a quote is left
open or nothing follows a backslash. -/
def splitWords : WordState → List Char → List Char → Option (List (List Char))
  | .outside, _, [] => some []
  | .inside, word, [] => some [word.reverse]
  | .quoted _, _, [] => none
  | .escaped _, _, [] => none
  | .outside, _, c :: rest =>
    if isWordBlank c then splitWords .outside [] rest
    else if isQuote c then splitWords (.quoted c) [] rest
    else if c = '\\' then splitWords (.escaped none) [] rest
    else splitWords .inside [c] rest
  | .inside, word, c :: rest =>
    if isWordBlank c then (splitWords .outside [] rest).map (word.reverse :: ·)
    else if isQuote c then splitWords (.quoted c) word rest
    else if c = '\\' then splitWords (.escaped none) word rest
    else splitWords .inside (c :: word) rest
  | .quoted q, word, c :: rest =>
    if c = q then splitWords .inside word rest
    else if c = '\\' && q = '\x22' then splitWords (.escaped (some q)) word rest
    else splitWords (.quoted q) (c :: word) rest
  | .escaped none, word, c :: rest => splitWords .inside (c :: word) rest
  | .escaped (some q), word, c :: rest =>
    if c = q || c = '\\' then splitWords (.quoted q) (c :: word) rest
    else splitWords (.quoted q) (c :: '\\' :: word) rest

def words? (line : String) : Option (List String) :=
  (splitWords .outside [] line.toList).map (·.map String.ofList)

end CloudCredentials.Text
