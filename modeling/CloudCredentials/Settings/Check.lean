import CloudCredentials.Settings.Model
import CloudCredentials.Settings.Problem
import CloudCredentials.Text.Blank
import CloudCredentials.Text.Utf8

/-!
# Checking settings

The settings that a structured value stands for, or all its problems in the order in which the
parts of the settings are declared. Names that no part of the settings has are ignored.
-/

namespace CloudCredentials

/-! ### Checked values -/

/-- A value, or the problems that stand in its way. -/
abbrev Checked (α : Type) := Except (List Problem) α

namespace Checked

def refuse {α : Type} (rule : Rule) (value : Value) : Checked α := .error [⟨[], rule, value⟩]

/-- Apply a checked function to a checked value; the problems of both are kept in order. -/
def apply {α β : Type} : Checked (α → β) → Checked α → Checked β
  | .ok f, .ok a => .ok (f a)
  | .ok _, .error problems => .error problems
  | .error problems, .ok _ => .error problems
  | .error first, .error second => .error (first ++ second)

/-- The checked value of a name in a mapping, or a default when the name is absent. -/
def field {α : Type} (m : Mapping) (name : String) (default : α) (check : Value → Checked α) :
    Checked α :=
  match m.get? name with
  | none => .ok default
  | some value => (check value).mapError (·.map (Problem.within name))

end Checked

/-! ### Texts and paths -/

/-- A text, given as text or as the bytes of one. -/
def checkText (value : Value) : Checked String :=
  match value with
  | .text s => .ok s
  | .brokenText _ => .refuse .unicodeText value
  | .bytes content =>
    match Text.decodeUtf8? content with
    | some s => .ok s
    | none => .refuse .unicodeText value
  | _ => .refuse .text value

def checkOptionalText : Value → Checked (Option String)
  | .null => .ok none
  | value => (checkText value).map some

/-- A path that may be absent; blank text stands for an absent path. -/
def checkOptionalPath (value : Value) : Checked (Option Path) :=
  match value with
  | .null => .ok none
  | .text s => .ok (if Text.isBlank s then none else some (Path.ofText s))
  | _ => .refuse .path value

/-! ### Truth values -/

def trueWords : List String := ["1", "on", "t", "true", "y", "yes"]

def falseWords : List String := ["0", "off", "f", "false", "n", "no"]

/-- The truth value that a word stands for; ASCII letters count as equal but for case. -/
def boolOfWord? (word : String) : Option Bool :=
  let word := String.ofList (word.toList.map Char.toLower)
  if trueWords.contains word then some true
  else if falseWords.contains word then some false
  else none

/-- The least integer of 64 bits. -/
def leastWord : Int := -9223372036854775808

/-- The first integer beyond those of 64 bits. -/
def wordEnd : Int := 9223372036854775808

def checkBoolInt (n : Int) (value : Value) : Checked Bool :=
  if n = 0 then .ok false
  else if n = 1 then .ok true
  else .refuse .boolWord value

/-- A truth value, given as such, as a word or as one of the numbers zero and one. -/
def checkBool (value : Value) : Checked Bool :=
  match value with
  | .bool b => .ok b
  | .text s => ofWord (boolOfWord? s)
  | .brokenText _ => .refuse .unicodeText value
  | .bytes content => ofWord ((Text.decodeUtf8? content).bind boolOfWord?)
  | .int n =>
    if leastWord ≤ n ∧ n < wordEnd then checkBoolInt n value else .refuse .bool value
  | .float x =>
    match Number.integral? x with
    | some n =>
      if leastWord < n ∧ n < wordEnd then checkBoolInt n value else .refuse .bool value
    | none => .refuse .bool value
  | _ => .refuse .bool value
where
  ofWord : Option Bool → Checked Bool
    | some b => .ok b
    | none => .refuse .boolWord value

/-! ### Sections -/

def checkSection (title : String) (value : Value) : Checked Mapping :=
  match value with
  | .map entries => .ok entries
  | _ => .refuse (.mapping title) value

def profileTitle : String := "Profile"

def stsTitle : String := "StsProperties"

def credentialsTitle : String := "CredentialsProperties"

def regionTitle : String := "RegionProperties"

def settingsTitle : String := "AutoconfigSettings"

def fileSettingsTitle : String := "FileSettings"

def checkProfile (m : Mapping) : Checked ProfileProperties :=
  let name := Checked.field m "name" none checkOptionalText
  let path := Checked.field m "path" none checkOptionalPath
  name.map ProfileProperties.mk |> (Checked.apply · path)

def checkSts (m : Mapping) : Checked StsProperties :=
  let enabled := Checked.field m "enabled" false checkBool
  let roleArn := Checked.field m "role_arn" none checkOptionalText
  let tokenFile := Checked.field m "web_identity_token_file" none checkOptionalPath
  let asyncUpdate := Checked.field m "async_credentials_update" false checkBool
  let sessionName := Checked.field m "role_session_name" none checkOptionalText
  enabled.map StsProperties.mk |> (Checked.apply · roleArn) |> (Checked.apply · tokenFile)
    |> (Checked.apply · asyncUpdate) |> (Checked.apply · sessionName)

def checkOptionalSection {α : Type} (title : String) (check : Mapping → Checked α) :
    Value → Checked (Option α)
  | .null => .ok none
  | value =>
    match checkSection title value with
    | .ok m => (check m).map some
    | .error problems => .error problems

def checkCredentials (m : Mapping) : Checked CredentialsProperties :=
  let accessKey := Checked.field m "access_key" none checkOptionalText
  let secretKey := Checked.field m "secret_key" none checkOptionalText
  let instanceProfile := Checked.field m "instance_profile" false checkBool
  let profile := Checked.field m "profile" none (checkOptionalSection profileTitle checkProfile)
  let sts := Checked.field m "sts" none (checkOptionalSection stsTitle checkSts)
  accessKey.map CredentialsProperties.mk |> (Checked.apply · secretKey)
    |> (Checked.apply · instanceProfile) |> (Checked.apply · profile) |> (Checked.apply · sts)

def checkRegion (m : Mapping) : Checked RegionProperties :=
  (Checked.field m "static" none checkOptionalText).map RegionProperties.mk

def checkGivenSection {α : Type} (title : String) (check : Mapping → Checked α) (value : Value) :
    Checked α :=
  match checkSection title value with
  | .ok m => check m
  | .error problems => .error problems

def checkSettings (m : Mapping) : Checked Settings :=
  let credentials :=
    Checked.field m "credentials" {} (checkGivenSection credentialsTitle checkCredentials)
  let region := Checked.field m "region" {} (checkGivenSection regionTitle checkRegion)
  credentials.map Settings.mk |> (Checked.apply · region)

/-! ### Assignment -/

/-- Sections keep the values that they were made with: assigning a name is a problem. -/
def assignmentProblem (name : String) (value : Value) : Problem := ⟨[name], .fixed, value⟩

end CloudCredentials
