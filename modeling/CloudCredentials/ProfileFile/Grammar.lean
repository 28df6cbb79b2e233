import CloudCredentials.Data.Datum
import CloudCredentials.Text.Blank
import CloudCredentials.Text.LowerCase
import CloudCredentials.Text.Utf8

/-!
# The grammar of profile files

A profile file is a sequence of sections. A section starts with its name in square brackets and
holds options, a name and a value separated by an equals sign or a colon. A line that is indented
deeper than the option above it continues that option's value. Lines that start with a number sign
or a semicolon are comments. The section named `DEFAULT` gives its options to all others.

A value with nothing on its first line is read as a table of options of its own.
-/

namespace CloudCredentials.ProfileFile

/-! ### Lines -/

inductive Line
  | comment
  | empty
  | content (indent : Nat) (text : List Char)
  deriving DecidableEq, Repr

/-- Lines of a text, without the line feeds. -/
def linesOf (cs : List Char) : List (List Char) := cs.splitOn '\n'

def classify (line : List Char) : Line :=
  match Text.trim line with
  | [] => .empty
  | c :: rest =>
    if c = '#' || c = ';' then .comment
    else .content (line.takeWhile Text.isBlankChar).length (c :: rest)

inductive Head
  | title (name : String)
  | option (name : String) (value : List Char)
  deriving DecidableEq, Repr

/-- The name of a section: what stands between an opening bracket and the last closing one. -/
def sectionName? (text : List Char) : Option String :=
  match text with
  | '[' :: rest =>
    match rest.reverse.dropWhile (· ≠ ']') with
    | _ :: name => if name.isEmpty then none else some (String.ofList name.reverse)
    | [] => none
  | _ => none

def isDelimiter (c : Char) : Bool := c = '=' || c = ':'

def option? (text : List Char) : Option (String × List Char) :=
  match text.dropWhile (!isDelimiter ·) with
  | _ :: value =>
    let name := Text.trimRight (text.takeWhile (!isDelimiter ·))
    if name.isEmpty then none
    else some (String.ofList (Text.lowerChars name), Text.trim value)
  | [] => none

def head? (text : List Char) : Option Head :=
  match sectionName? text with
  | some name => some (.title name)
  | none => (option? text).map fun o => .option o.1 o.2

/-! ### Sections -/

/-- The name of the section that gives its options to all others. -/
def sharedName : String := "DEFAULT"

/-- A section while it is read: its options with the lines of their values, the last one first. -/
structure Draft where
  name : String
  options : List (String × List (List Char))
  deriving Repr

/-- The state of a reader: the finished sections and the one being read, the last one first;
whether the next deeper line continues an option; and the indent of the last line that did not. -/
structure Reader where
  drafts : List Draft := []
  inOption : Bool := false
  indent : Nat := 0

namespace Reader

def continueOption (r : Reader) (text : List Char) : Reader :=
  match r.drafts with
  | ⟨name, (option, lines) :: options⟩ :: drafts =>
    { r with drafts := ⟨name, (option, text :: lines) :: options⟩ :: drafts }
  | _ => r

/-- Move the draft of a section to the front. -/
def reopen (name : String) (drafts : List Draft) : List Draft :=
  match drafts.find? (·.name = name) with
  | some draft => draft :: drafts.filter (·.name ≠ name)
  | none => ⟨name, []⟩ :: drafts

/-- Start a section. A section other than the shared one occurs once. -/
def openSection (r : Reader) (name : String) : Option Reader :=
  if name ≠ sharedName && r.drafts.any (·.name = name) then none
  else some { r with drafts := reopen name r.drafts, inOption := false }

/-- Start an option of the current section; a section has an option once. -/
def openOption (r : Reader) (name : String) (value : List Char) : Option Reader :=
  match r.drafts with
  | draft :: drafts =>
    if draft.options.any (·.1 = name) then none
    else some { r with
      drafts := ⟨draft.name, (name, [value]) :: draft.options⟩ :: drafts
      inOption := true }
  | [] => none

def line (r : Reader) (l : Line) : Option Reader :=
  match l with
  | .comment => some r
  | .empty => some (if r.inOption then r.continueOption [] else r)
  | .content indent text =>
    if r.inOption && r.indent < indent then some (r.continueOption text)
    else
      let r := { r with indent }
      match head? text with
      | some (.title name) => r.openSection name
      | some (.option name value) => r.openOption name value
      | none => none

def lines (r : Reader) : List (List Char) → Option Reader
  | [] => some r
  | l :: rest => (r.line (classify l)).bind (·.lines rest)

end Reader

/-! ### Values -/

def isTableBreak (c : Char) : Bool :=
  let n := c.toNat
  (10 ≤ n && n ≤ 13) || (28 ≤ n && n ≤ 30) || n == 0x85 || n == 0x2028 || n == 0x2029

/-- The lines of a table that are not blank, without blanks at their ends. -/
def tableLines (value : List Char) : List (List Char) :=
  ((value.splitOnP isTableBreak).map Text.trim).filter (!·.isEmpty)

def tableRow (line : List Char) : Option (String × String) :=
  match line.dropWhile (· ≠ '=') with
  | _ :: value =>
    some (String.ofList (Text.trim (line.takeWhile (· ≠ '='))), String.ofList (Text.trim value))
  | [] => none

/-- Entries in which a later one replaces an earlier one of the same name. -/
def putEntry {α : Type} (entries : List (String × α)) (name : String) (value : α) :
    List (String × α) :=
  if entries.any (·.1 = name) then entries.map fun e => if e.1 = name then (name, value) else e
  else entries ++ [(name, value)]

def table? (value : List Char) : Option (List (String × String)) :=
  (tableLines value).foldlM (fun entries line =>
    (tableRow line).map fun e => putEntry entries e.1 e.2) []

/-- The text of a value: its lines, without blanks at the end. -/
def joined (lines : List (List Char)) : List Char :=
  Text.trimRight (List.intercalate ['\n'] lines.reverse)

def datum? (lines : List (List Char)) : Option Datum :=
  let value := joined lines
  match value with
  | '\n' :: _ => (table? value).map .table
  | _ => some (.text (String.ofList value))

/-! ### Files -/

abbrev Section := List (String × Datum)

abbrev Sections := List (String × Section)

/-- The options of a draft in order. -/
def Draft.section? (d : Draft) : Option Section :=
  d.options.reverse.mapM fun o => (datum? o.2).map (o.1, ·)

/-- The sections that drafts hold. The shared options are read where a section takes them over. -/
def sections? (drafts : List Draft) : Option Sections :=
  let shared := ((drafts.find? (·.name = sharedName)).map Draft.options).getD []
  let own := (drafts.filter (·.name ≠ sharedName)).reverse
  own.mapM fun d =>
    let missing := shared.filter fun o => !d.options.any (·.1 = o.1)
    (Draft.section? ⟨d.name, missing ++ d.options⟩).map (d.name, ·)

/-- The sections of a file; none when it does not follow the grammar. -/
def parse (content : List UInt8) : Option Sections := do
  let cs ← (Text.decodeUtf8 content).toOption
  let reader ← Reader.lines {} (linesOf (Text.unifyLineEnds cs))
  sections? reader.drafts

end CloudCredentials.ProfileFile
