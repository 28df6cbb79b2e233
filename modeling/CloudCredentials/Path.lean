/-!
# Paths

A path is a root and a list of names. Reading a path drops empty names and names that stand for
the same directory; names that go up one directory are kept, since they cannot be resolved
without looking at the files.
-/

namespace CloudCredentials

/-! ### Paths and their text -/

/-- Where a path starts: at the working directory, at the root, or at the second kind of root
that two slashes denote. -/
inductive PathRoot
  | none
  | slash
  | twoSlashes
  deriving DecidableEq, Repr

def PathRoot.text : PathRoot → String
  | .none => ""
  | .slash => "/"
  | .twoSlashes => "//"

structure Path where
  root : PathRoot
  names : List String
  deriving DecidableEq, Repr

namespace Path

/-- The pieces of a text between slashes. -/
def pieces (text : String) : List String :=
  (text.toList.splitOn '/').map String.ofList

/-- A piece that names something below the directory it is looked up in. -/
def isName (piece : String) : Bool := piece ≠ "" && piece ≠ "."

def rootOf (text : String) : PathRoot :=
  match text.toList with
  | '/' :: '/' :: '/' :: _ => .slash
  | '/' :: '/' :: _ => .twoSlashes
  | '/' :: _ => .slash
  | _ => .none

def ofText (text : String) : Path := ⟨rootOf text, (pieces text).filter isName⟩

theorem isName_of_mem_ofText {text name : String} (h : name ∈ (ofText text).names) :
    isName name = true :=
  (List.mem_filter.mp h).2

/-- The text of a path; the path without root and names is the working directory. -/
def text (p : Path) : String :=
  if p.root = .none && p.names.isEmpty then "."
  else p.root.text ++ "/".intercalate p.names

def below (p : Path) (names : List String) : Path := { p with names := p.names ++ names }

/-! ### The home directory -/

/-- The path starts with the name of a home directory. -/
def startsAtHome (p : Path) : Bool :=
  p.root = .none && match p.names with
    | name :: _ => name.toList.head? = some '~'
    | [] => false

/-- A home directory's text without slashes at its end; the root itself is kept. -/
def trimSlashes (text : String) : String :=
  let cs := (text.toList.reverse.dropWhile (· = '/')).reverse
  if cs.isEmpty then "/" else String.ofList cs

/-- The path with the user's home directory in place of a leading tilde. There is none when the
home directory is not known: for other users, without a home directory, and when the home
directory itself starts with a tilde. -/
def expandHome (home : Option String) (p : Path) : Option Path :=
  if !p.startsAtHome then some p else
  match p.names, home with
  | "~" :: rest, some home =>
    let directory := trimSlashes home
    if directory.toList.head? = some '~' then none
    else some ((ofText directory).below rest)
  | _, _ => none

theorem expandHome_of_not_startsAtHome {p : Path} (home : Option String)
    (h : p.startsAtHome = false) : p.expandHome home = some p := by
  simp [expandHome, h]

def home (home : Option String) : Option Path := expandHome home ⟨.none, ["~"]⟩

end Path

end CloudCredentials
