import CloudCredentials.Settings.Variables
import CloudCredentials.Yaml.Document

/-!
# Settings in a config file

A config file is a YAML text, as a rule a mapping from sections to their parts. The names of the
sections count as equal but for case, all other names are exact. A document that stands for nothing
says nothing. A list or a text is taken as a list of pairs.
-/

namespace CloudCredentials

/-! ### Pairs -/

def Value.elements? : Value → Option (List Value)
  | .text s => some (s.toList.map fun c => .text (String.ofList [c]))
  | .brokenText codes => some (codes.map fun code => .ofCodes [code])
  | .bytes content => some (content.map fun b => .int b.toNat)
  | .list items | .set items => some items
  | .pair first second => some [first, second]
  | .map entries => some (entries.map Prod.fst)
  | _ => none

/-- The entries that a list of pairs stands for; the number of the first pair is given. -/
def pairEntries : Nat → List Value → Except Failure (List (Value × Value))
  | _, [] => .ok []
  | number, value :: rest =>
    match value.elements? with
    | none =>
      .error (.mismatch (.other ("cannot convert dictionary update sequence element #" ++
        toString number ++ " to a sequence")))
    | some [key, value] =>
      if key.isHashable then (pairEntries (number + 1) rest).map ((key, value) :: ·)
      else .error (.mismatch (.other ("unhashable type: " ++ Text.quoted key.kindName)))
    | some elements =>
      .error (.refused (.other ("dictionary update sequence element #" ++ toString number ++
        " has length " ++ toString elements.length ++ "; 2 is required")))

def mappingOf (value : Value) : Except Failure Mapping :=
  if value.isFalsy then .ok []
  else
    match value with
    | .map entries => .ok entries
    | value =>
      match value.elements? with
      | some elements => (pairEntries 0 elements).map Mapping.ofEntries
      | none =>
        .error (.mismatch (.other (Text.quoted value.kindName ++ " object is not iterable")))

/-! ### Sections -/

/-- The value may name a section: it has a form in lower case. -/
def Value.isName : Value → Bool
  | .text _ | .brokenText _ | .bytes _ => true
  | _ => false

def Section.isNamed (s : Section) : Value → Bool
  | .text name => Text.lower name = s.name
  | _ => false

def Section.last? (s : Section) (m : Mapping) : Option Value :=
  ((m.filter fun entry => s.isNamed entry.1).getLast?).map Prod.snd

/-- The sections of a mapping under their own names. All keys have to be names. -/
def sectionsIn (m : Mapping) : Except Failure Mapping :=
  if m.all fun entry => entry.1.isName then
    .ok (Section.all.filterMap fun s => (s.last? m).map (Value.text s.name, ·))
  else .error .noPart

def configSettings (bytes : List UInt8) : Except Failure Mapping := do
  sectionsIn (← mappingOf (← Yaml.read bytes))

end CloudCredentials
