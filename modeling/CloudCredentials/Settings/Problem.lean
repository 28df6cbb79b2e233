import CloudCredentials.Data.Literal

/-!
# Problems of settings

A problem says where in the settings a value is refused, by which rule, and which value it is.
-/

namespace CloudCredentials

/-! ### Rules -/

inductive Rule
  | text
  | unicodeText
  | bool
  | boolWord
  | path
  | mapping (title : String)
  | fixed
  deriving DecidableEq, Repr

def Rule.name : Rule → String
  | .text => "string_type"
  | .unicodeText => "string_unicode"
  | .bool => "bool_type"
  | .boolWord => "bool_parsing"
  | .path => "path_type"
  | .mapping _ => "model_type"
  | .fixed => "frozen_instance"

def Rule.message : Rule → String
  | .text => "Input should be a valid string"
  | .unicodeText =>
    "Input should be a valid string, unable to parse raw data as a unicode string"
  | .bool => "Input should be a valid boolean"
  | .boolWord => "Input should be a valid boolean, unable to interpret input"
  | .path => "Input is not a valid path for <class 'pathlib.Path'>"
  | .mapping title => "Input should be a valid dictionary or instance of " ++ title
  | .fixed => "Instance is frozen"

/-! ### Problems -/

/-- A refused value: the names that lead to it, the rule that it breaks, and the value. -/
structure Problem where
  location : List String
  rule : Rule
  value : Value

/-- The same problem seen from the section that holds the place under a name. -/
def Problem.within (name : String) (p : Problem) : Problem :=
  { p with location := name :: p.location }

def Problem.message (p : Problem) : String :=
  ".".intercalate p.location ++ "\n  " ++ p.rule.message ++ " [type=" ++ p.rule.name ++
    ", input_value=" ++ shorten p.value.literal ++ ", input_type=" ++ p.value.kindName ++ "]"

def problemsMessage (title : String) (problems : List Problem) : String :=
  let count := problems.length
  "\n".intercalate ((toString count ++
    (if count = 1 then " validation error for " else " validation errors for ") ++ title) ::
    problems.map Problem.message)

end CloudCredentials
