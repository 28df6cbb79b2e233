import CloudCredentials.Environment
import CloudCredentials.Text.Blank

/-!
# Variable files

A variable file assigns values to names, one assignment a line. A value may be quoted, and a
quoted value may span lines; outside quotes a number sign after a blank starts a comment. Values
refer to other variables by a dollar sign and braces: to those of earlier lines first, then to
those of the environment. A line that is no assignment is passed over.
-/

namespace CloudCredentials.Dotenv

/-! ### Blanks and line ends -/

def isLineEnd (c : Char) : Bool := c = '\r' || c = '\n'

def isInnerBlank (c : Char) : Bool := Text.isBlankChar c && !isLineEnd c

/-- A text without the blanks in front, up to the end of the line. -/
def skipInner (cs : List Char) : List Char := cs.dropWhile isInnerBlank

/-- What follows the end of the line, when nothing but blanks stands before it. -/
def lineEnd? (cs : List Char) : Option (List Char) :=
  match skipInner cs with
  | [] => some []
  | '\r' :: '\n' :: rest => some rest
  | c :: rest => if isLineEnd c then some rest else none

def restOfLine (cs : List Char) : List Char := (cs.dropWhile (!isLineEnd ·)).drop 1

def skipComment (cs : List Char) : List Char :=
  match skipInner cs with
  | '#' :: rest => rest.dropWhile (!isLineEnd ·)
  | _ => cs

/-! ### Names -/

def skipExport (cs : List Char) : List Char :=
  if "export".toList.isPrefixOf cs then
    match cs.drop 6 with
    | c :: rest => if isInnerBlank c then skipInner rest else cs
    | [] => cs
  else cs

def isNameChar (c : Char) : Bool := c ≠ '=' && c ≠ '#' && !Text.isBlankChar c

/-- What stands at the place of a name: a name, or the start of a comment. -/
inductive NameResult
  | name (s : String)
  | comment
  deriving DecidableEq, Repr

/-- The name at the start of a text, and what follows it. -/
def name? (cs : List Char) : Option (NameResult × List Char) :=
  match cs with
  | '#' :: _ => some (.comment, cs)
  | '\x27' :: rest =>
    let name := rest.takeWhile (· ≠ '\x27')
    match rest.dropWhile (· ≠ '\x27') with
    | _ :: after => if name.isEmpty then none else some (.name (String.ofList name), after)
    | [] => none
  | _ =>
    let name := cs.takeWhile isNameChar
    if name.isEmpty then none else some (.name (String.ofList name), cs.dropWhile isNameChar)

/-! ### Values -/

/-- The text up to a closing quote, and what follows it. A quote after a backslash closes only when
no later one does. -/
def untilQuote (q : Char) : List Char → Option (List Char × List Char)
  | [] => none
  | [c] => if c = q then some ([], []) else none
  | c :: d :: rest =>
    if c = '\\' && d = q then
      match untilQuote q rest with
      | some (text, after) => some (c :: d :: text, after)
      | none => some ([c], rest)
    else if c = q then some ([], d :: rest)
    else (untilQuote q (d :: rest)).map fun r => (c :: r.1, r.2)

def escaped? (c : Char) : Option Char :=
  match c with
  | '\\' => some '\\'
  | '\x27' => some '\x27'
  | '\x22' => some '\x22'
  | 'a' => some (Char.ofNat 7)
  | 'b' => some (Char.ofNat 8)
  | 'f' => some (Char.ofNat 12)
  | 'n' => some '\n'
  | 'r' => some '\r'
  | 't' => some '\t'
  | 'v' => some (Char.ofNat 11)
  | _ => none

def escapedPlain? (c : Char) : Option Char :=
  if c = '\\' || c = '\x27' then some c else none

/-- Put characters in place of escapes; a backslash that starts no escape stays. -/
def unescape (known : Char → Option Char) : List Char → List Char
  | [] => []
  | [c] => [c]
  | c :: d :: rest =>
    if c = '\\' then
      match known d with
      | some e => e :: unescape known rest
      | none => c :: unescape known (d :: rest)
    else c :: unescape known (d :: rest)

/-- A value without the comment that a blank and a number sign start. -/
def cutComment : List Char → List Char
  | [] => []
  | c :: rest =>
    if Text.isBlankChar c && (rest.dropWhile Text.isBlankChar).head? = some '#' then []
    else c :: cutComment rest

/-- The value at the start of a text, and what follows it. -/
def value? (cs : List Char) : Option (List Char × List Char) :=
  match cs with
  | '\x27' :: rest => (untilQuote '\x27' rest).map fun r => (unescape escapedPlain? r.1, r.2)
  | '\x22' :: rest => (untilQuote '\x22' rest).map fun r => (unescape escaped? r.1, r.2)
  | _ =>
    some (Text.trimRight (cutComment (cs.takeWhile (!isLineEnd ·))),
      cs.dropWhile (!isLineEnd ·))

/-! ### Assignments -/

/-- A name and its value; without an equals sign there is no value. -/
abbrev Assignment := String × Option (List Char)

/-- The value after an equals sign, or none when there is no such sign. -/
def assigned (cs : List Char) : Option (List Char) × List Char × Bool :=
  match skipInner cs with
  | '=' :: rest =>
    let rest := skipInner rest
    match value? rest with
    | some (value, after) => (some value, after, true)
    | none => (none, rest, false)
  | rest => (none, rest, true)

/-- The assignment of a line, if it is one, and what follows the line. -/
def line (cs : List Char) : Option Assignment × List Char :=
  let cs := skipExport (cs.dropWhile Text.isBlankChar)
  match name? cs with
  | none => (none, restOfLine cs)
  | some (name, rest) =>
    match assigned rest with
    | (_, rest, false) => (none, restOfLine rest)
    | (value, rest, true) =>
      let rest := skipComment rest
      match lineEnd? rest with
      | none => (none, restOfLine rest)
      | some after =>
        match name with
        | .name s => (some (s, value), after)
        | .comment => (none, after)

def assignments : Nat → List Char → List Assignment
  | 0, _ => []
  | _, [] => []
  | fuel + 1, cs =>
    let (found, rest) := line cs
    match found with
    | some a => a :: assignments fuel rest
    | none => assignments fuel rest

/-! ### References -/

/-- A reference after a dollar sign and a brace: the name, the default, and what follows. -/
def reference? (cs : List Char) : Option (String × List Char × List Char) :=
  let stops (c : Char) : Bool := c = '\x7d' || c = ':'
  let name := String.ofList (cs.takeWhile (!stops ·))
  match cs.dropWhile (!stops ·) with
  | '\x7d' :: after => some (name, [], after)
  | ':' :: '-' :: rest =>
    match rest.dropWhile (· ≠ '\x7d') with
    | _ :: after => some (name, rest.takeWhile (· ≠ '\x7d'), after)
    | [] => none
  | _ => none

def expand (valueOf : String → Option (Option String)) : Nat → List Char → List Char
  | 0, cs => cs
  | _, [] => []
  | fuel + 1, c :: rest =>
    match c, rest with
    | '$', '\x7b' :: more =>
      match reference? more with
      | some (name, default, after) =>
        let value := match valueOf name with
          | some (some value) => value.toList
          | some none => []
          | none => default
        value ++ expand valueOf fuel after
      | none => c :: expand valueOf fuel rest
    | _, _ => c :: expand valueOf fuel rest

/-- Names and values; a name without a value has none. -/
abbrev Variables := List (String × Option String)

/-- The variables with a value for a name: a known name keeps its place. -/
def put (vars : Variables) (name : String) (value : Option String) : Variables :=
  if vars.any (·.1 = name) then vars.map fun v => if v.1 = name then (name, value) else v
  else vars ++ [(name, value)]

/-- What a reference sees: the variables of earlier lines, then the environment. -/
def lookup (env : Environment) (vars : Variables) (name : String) : Option (Option String) :=
  match vars.lookup name with
  | some value => some value
  | none => (env.get? name).map some

def assign (env : Environment) (vars : Variables) (a : Assignment) : Variables :=
  let value := a.2.map fun cs => String.ofList (expand (lookup env vars) (cs.length + 1) cs)
  put vars a.1 value

def read (env : Environment) (cs : List Char) : Variables :=
  (assignments (cs.length + 1) cs).foldl (assign env) []

end CloudCredentials.Dotenv
