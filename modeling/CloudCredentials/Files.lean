import CloudCredentials.Path
import CloudCredentials.Text.Quoted

/-!
# Files

The files below the working directory and below the root, and the lookup of a path among them. A
lookup walks the names of a path one by one, so that a name below something that is not a directory
is a fault of its own. Nothing but directories is known above the working directory.
-/

namespace CloudCredentials

/-! ### The files -/

inductive Entry
  | file (content : List UInt8)
  | directory
  deriving DecidableEq, Repr

/-- The bytes of a text that is written in ASCII. -/
def asciiBytes (text : String) : List UInt8 := text.toList.map fun c => UInt8.ofNat c.toNat

/-- Entries by the names that lead to them from the working directory. The name of the root comes
first for those that are reached from there. -/
abbrev Files := List (List String × Entry)

/-- The name of the root, which no piece of a path has. -/
def rootName : String := "/"

/-- The names that a path takes from the working directory. -/
def Path.trail (p : Path) : List String :=
  if p.root = .none then p.names else rootName :: p.names

inductive FileFault
  | missing (path : String)
  | notDirectory (path : String)
  | isDirectory (path : String)
  deriving DecidableEq, Repr

def FileFault.message : FileFault → String
  | .missing path => "[Errno 2] No such file or directory: " ++ Text.quoted path
  | .notDirectory path => "[Errno 20] Not a directory: " ++ Text.quoted path
  | .isDirectory path => "[Errno 21] Is a directory: " ++ Text.quoted path

namespace Files

/-- The entry that names lead to; no names lead to the working directory, and the root is one,
too. -/
def entryAt (files : Files) (names : List String) : Option Entry :=
  if names.isEmpty || names = [rootName] then some .directory else files.lookup names

def remove (files : Files) (names : List String) : Files := files.filter (·.1 ≠ names)

def addParents (files : Files) : List String → List String → Files
  | _, [] => files
  | _, [_] => files
  | above, name :: rest =>
    let directory := above ++ [name]
    let files := if (entryAt files directory).isSome then files
      else files ++ [(directory, .directory)]
    addParents files directory rest

/-- The files with an entry at a path; the directories above it come into being. -/
def put (files : Files) (path : String) (entry : Entry) : Files :=
  let names := (Path.ofText path).trail
  addParents (remove files names) [] names ++ [(names, entry)]

def delete (files : Files) (path : String) : Files := remove files (Path.ofText path).trail

/-! ### Lookup -/

/-- Where a lookup is: at known names, or some directories above the working directory. -/
inductive Place
  | inside (names : List String)
  | outside
  deriving DecidableEq, Repr

inductive Found
  | entry (e : Entry)
  | missing
  | notDirectory
  deriving DecidableEq, Repr

def at? (files : Files) : Place → Option Entry
  | .inside names => entryAt files names
  | .outside => some .directory

def step : Place → String → Place
  | .outside, _ => .outside
  | .inside names, name =>
    if name ≠ ".." then .inside (names ++ [name])
    else if names.isEmpty then .outside
    else if names = [rootName] then .inside names
    else .inside names.dropLast

def walk (files : Files) : Place → List String → Found
  | place, [] =>
    match at? files place with
    | some e => .entry e
    | none => .missing
  | place, name :: rest =>
    match at? files place with
    | none => .missing
    | some (.file _) => .notDirectory
    | some .directory =>
      match place with
      | .outside => if name = ".." then walk files .outside rest else .missing
      | .inside _ => walk files (step place name) rest

/-- The text asks for a directory: it ends in a slash or in the name of the same directory. -/
def asksDirectory (text : String) : Bool :=
  match (Path.pieces text).getLast? with
  | some piece => !Path.isName piece
  | none => false

def find (files : Files) (text : String) : Found :=
  if text.isEmpty then .missing else
  let path := Path.ofText text
  let start := if path.root = .none then [] else [rootName]
  let found := walk files (.inside start) path.names
  match found with
  | .entry (.file _) => if asksDirectory text then .notDirectory else found
  | found => found

def isFile (files : Files) (text : String) : Bool :=
  match find files text with
  | .entry (.file _) => true
  | _ => false

def read (files : Files) (text : String) : Except FileFault (List UInt8) :=
  match find files text with
  | .entry (.file content) => .ok content
  | .entry .directory => .error (.isDirectory text)
  | .missing => .error (.missing text)
  | .notDirectory => .error (.notDirectory text)

theorem isFile_iff_read_ok (files : Files) (text : String) :
    isFile files text = true ↔ ∃ content, read files text = .ok content := by
  unfold isFile read
  cases find files text with
  | entry e => cases e <;> simp
  | missing => simp
  | notDirectory => simp

end Files

end CloudCredentials
