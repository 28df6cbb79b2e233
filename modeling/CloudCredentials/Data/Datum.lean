import CloudCredentials.Text.Quoted

/-!
# Delivered data

One field of what a source of credentials delivers: nothing, a text, or a table of texts, which
is what a nested section of a profile file reads as.
-/

namespace CloudCredentials

inductive Datum
  | absent
  | text (s : String)
  | table (entries : List (String × String))
  deriving DecidableEq, Repr, Inhabited

namespace Datum

/-- The field holds nothing: it is absent or has no content. -/
def isEmpty : Datum → Bool
  | .absent => true
  | .text s => s = ""
  | .table entries => entries.isEmpty

def ofOption : Option String → Datum
  | none => .absent
  | some s => .text s

def text? : Datum → Option String
  | .text s => some s
  | _ => none

def literal : Datum → String
  | .absent => "None"
  | .text s => Text.quoted s
  | .table entries =>
    "\x7b" ++ ", ".intercalate (entries.map fun e =>
      Text.quoted e.1 ++ ": " ++ Text.quoted e.2) ++ "\x7d"

/-- The plain form of a field: a text stands for itself. -/
def plain : Datum → String
  | .text s => s
  | d => d.literal

end Datum

end CloudCredentials
