import CloudCredentials.ProfileFile.Grammar
import CloudCredentials.Text.Words
import CloudCredentials.World

/-!
# Looking up profiles

The profiles of the shared credentials file and of the config file. The name of a file may refer
to environment variables and to the home directory. A file that is not there has no profiles; a
file that does not follow the grammar is a failure.
-/

namespace CloudCredentials.ProfileFile

/-! ### Names of files -/

def isVariableChar (c : Char) : Bool := c.isAlphanum || c = '_'

/-- A reference to a variable after a dollar sign: the name, and what follows the reference. -/
def reference? (cs : List Char) : Option (String × List Char) :=
  match cs with
  | '\x7b' :: rest =>
    match rest.dropWhile (· ≠ '\x7d') with
    | _ :: after => some (String.ofList (rest.takeWhile (· ≠ '\x7d')), after)
    | [] => none
  | _ =>
    let name := cs.takeWhile isVariableChar
    if name.isEmpty then none else some (String.ofList name, cs.dropWhile isVariableChar)

/-- Put the values of variables in place of references; a reference to a variable that is not set
stays as it is. -/
def expandReferences (env : Environment) : Nat → List Char → List Char
  | 0, cs => cs
  | _, [] => []
  | fuel + 1, c :: rest =>
    if c = '$' then
      match reference? rest with
      | some (name, after) =>
        match env.get? name with
        | some value => value.toList ++ expandReferences env fuel after
        | none =>
          c :: (rest.take (rest.length - after.length) ++ expandReferences env fuel after)
      | none => c :: expandReferences env fuel rest
    else c :: expandReferences env fuel rest

/-- Put the home directory in place of a tilde that stands alone before the first slash. -/
def expandTilde (home : Option String) (text : String) : String :=
  match text.toList, home with
  | ['~'], some home => Path.trimSlashes home
  | '~' :: '/' :: rest, some home =>
    let directory := (home.toList.reverse.dropWhile (· = '/')).reverse
    String.ofList (directory ++ '/' :: rest)
  | _, _ => text

/-- The name of a profile file with its references and its tilde expanded. -/
def expandName (env : Environment) (text : String) : String :=
  let cs := text.toList
  expandTilde env.home (String.ofList (expandReferences env (cs.length + 1) cs))

theorem expandReferences_of_not_mem (env : Environment) (fuel : Nat) (cs : List Char)
    (h : '$' ∉ cs) : expandReferences env fuel cs = cs := by
  induction cs generalizing fuel with
  | nil => cases fuel <;> rfl
  | cons c rest ih =>
    cases fuel with
    | zero => rfl
    | succ fuel =>
      have hc : c ≠ '$' := fun e => h (e ▸ List.mem_cons_self)
      have hr : '$' ∉ rest := fun hm => h (List.mem_cons_of_mem _ hm)
      simp [expandReferences, hc, ih fuel hr]

/-! ### Reading files -/

/-- The sections of a file; none when there is no such file. -/
def readSections (w : World) (name : String) : Except Failure (Option Sections) :=
  let path := expandName w.environment name
  match w.files.read path with
  | .error _ => .ok none
  | .ok content =>
    match parse content with
    | some sections => .ok (some sections)
    | none => .error (.profileFile path)

/-- The profiles that a section of the config file stands for: the section named `default` is one,
and so is a section whose name is the word `profile` and one other word. -/
def profileName? (name : String) : Option String :=
  if "profile".toList.isPrefixOf name.toList then
    match Text.words? name with
    | some [_, profile] => some profile
    | _ => none
  else if name = "default" then some name
  else none

/-- The profiles of a config file; a later section replaces an earlier one of the same profile. -/
def profilesOf (sections : Sections) : Sections :=
  sections.foldl (fun profiles s =>
    match profileName? s.1 with
    | some name => putEntry profiles name s.2
    | none => profiles) []

/-- Add the options of one section to another: a known option gets the new value. -/
def addOptions (base added : Section) : Section :=
  added.foldl (fun s o => putEntry s o.1 o.2) base

/-- Add the sections of a credentials file to the profiles of a config file. -/
def addSections (profiles sections : Sections) : Sections :=
  sections.foldl (fun profiles s =>
    match profiles.lookup s.1 with
    | some base => putEntry profiles s.1 (addOptions base s.2)
    | none => putEntry profiles s.1 s.2) profiles

/-! ### Keys of a profile -/

/-- The keys of a section: none without an access key, a failure without its secret key. -/
def keysOf (origin : String) (options : Section) : Except Failure (Option Keys) :=
  match options.lookup "aws_access_key_id" with
  | none => .ok none
  | some accessKey =>
    match options.lookup "aws_secret_access_key" with
    | none => .error (.partialKeys origin "aws_secret_access_key")
    | some secretKey =>
      let token := match options.lookup "aws_security_token" with
        | some token => token
        | none => (options.lookup "aws_session_token").getD .absent
      .ok (some ⟨accessKey, secretKey, token⟩)

def credentialsOrigin : String := "shared-credentials-file"

def configOrigin : String := "config-file"

def keysIn (origin profile : String) : Option Sections → Except Failure (Option Keys)
  | none => .ok none
  | some sections =>
    match sections.lookup profile with
    | none => .ok none
    | some options => keysOf origin options

def credentialsFileKeys (w : World) (file profile : String) : Except Failure (Option Keys) :=
  (readSections w file).bind (keysIn credentialsOrigin profile)

def configFileKeys (w : World) (file profile : String) : Except Failure (Option Keys) :=
  (readSections w file).bind fun sections => keysIn configOrigin profile (sections.map profilesOf)

end CloudCredentials.ProfileFile
