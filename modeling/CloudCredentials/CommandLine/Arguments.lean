import CloudCredentials.Text.Quoted
import CloudCredentials.Text.Similar

/-!
# Arguments of the command line

The program takes options of its own, the name of a command, and the options of that command. An
argument that starts with a hyphen is an option; two hyphens alone end the options. A request is
what a command line asks for.
-/

namespace CloudCredentials.CommandLine

/-! ### Commands and options -/

inductive Command
  | configTemplate
  | describe
  | validate
  deriving DecidableEq, Repr

namespace Command

def all : List Command := [.configTemplate, .describe, .validate]

def name : Command → String
  | .configTemplate => "config-template"
  | .describe => "describe"
  | .validate => "validate"

def ofName? (name : String) : Option Command := all.find? (·.name = name)

end Command

inductive Switch
  | debug
  | config
  | help
  deriving DecidableEq, Repr

namespace Switch

def long : Switch → String
  | .debug => "--debug"
  | .config => "--config"
  | .help => "--help"

def short? : Switch → Option Char
  | .config => some 'c'
  | _ => none

def takesValue : Switch → Bool
  | .config => true
  | _ => false

end Switch

def programSwitches : List Switch := [.debug, .help]

def Command.switches : Command → List Switch
  | .configTemplate => [.help]
  | .describe | .validate => [.config, .help]

/-! ### Faults -/

inductive Fault
  | noArguments
  | noCommand
  | unknownCommand (name : String) (close : List String)
  | unknownOption (name : String) (close : List String)
  | missingValue (name : String)
  | needlessValue (name : String)
  | extraArguments (arguments : List String)
  deriving DecidableEq, Repr

def guesses (what : String) (close : List String) : String :=
  match close.map Text.quoted with
  | [] => ""
  | [name] => " Did you mean " ++ name ++ "?"
  | names => " (Possible " ++ what ++ ": " ++ ", ".intercalate names ++ ")"

def Fault.message : Fault → String
  | .noArguments => ""
  | .noCommand => "Missing command."
  | .unknownCommand name close =>
    "No such command " ++ Text.quoted name ++ "." ++ guesses "commands" close
  | .unknownOption name close =>
    "No such option " ++ Text.quoted name ++ "." ++ guesses "options" close
  | .missingValue name => "Option " ++ Text.quoted name ++ " requires an argument."
  | .needlessValue name => "Option " ++ Text.quoted name ++ " does not take a value."
  | .extraArguments arguments =>
    "Got unexpected extra argument" ++ (if arguments.length = 1 then "" else "s") ++ " (" ++
      " ".intercalate arguments ++ ")"

/-! ### Single options -/

structure Chosen where
  debug : Bool := false
  help : Bool := false
  config : Option String := none
  deriving DecidableEq, Repr

def Chosen.take (c : Chosen) (s : Switch) (value : String) : Chosen :=
  match s with
  | .debug => { c with debug := true }
  | .help => { c with help := true }
  | .config => { c with config := some value }

/-- What an argument says: it is no option, an option is complete, or its value is the next
argument. -/
inductive Said
  | plain
  | complete (s : Switch) (value : String)
  | awaits (s : Switch) (name : String)
  deriving DecidableEq, Repr

/-- The long names most like a given one, in alphabetical order. -/
def closeOptions (switches : List Switch) (name : String) : List String :=
  (Text.closeWords name (switches.map Switch.long)).mergeSort fun a b => !Text.wordLt b a

/-- An option that is named by a letter. What follows the letter is its value. -/
def shortOption (switches : List Switch) (letters : List Char) : Except Fault Said :=
  match letters with
  | [] => .ok .plain
  | letter :: value =>
    match switches.find? (·.short? = some letter) with
    | none => .error (.unknownOption (String.ofList ['-', letter]) [])
    | some s =>
      if value.isEmpty then .ok (.awaits s (String.ofList ['-', letter]))
      else .ok (.complete s (String.ofList value))

/-- An option that is named in full, perhaps with its value after an equals sign; without such an
option there is none of that name. -/
def longOption? (switches : List Switch) (argument : List Char) : Option (Except Fault Said) :=
  let name := String.ofList (argument.takeWhile (· ≠ '='))
  match switches.find? (·.long = name), argument.dropWhile (· ≠ '=') with
  | none, _ => none
  | some s, _ :: value =>
    some (if s.takesValue then .ok (.complete s (String.ofList value))
      else .error (.needlessValue name))
  | some s, [] => some (.ok (if s.takesValue then .awaits s name else .complete s ""))

def said (switches : List Switch) (argument : String) : Except Fault Said :=
  match argument.toList with
  | '-' :: c :: rest =>
    match longOption? switches ('-' :: c :: rest) with
    | some answer => answer
    | none =>
      if c = '-' then
        let name := String.ofList (('-' :: c :: rest).takeWhile (· ≠ '='))
        .error (.unknownOption name (closeOptions switches name))
      else shortOption switches (c :: rest)
  | _ => .ok .plain

/-! ### All options -/

/-- Read the options among arguments. Reading stops after two hyphens, and before the first
argument that is no option unless options may follow it. The answer is what was chosen and the
arguments that are no options. -/
def readOptions (switches : List Switch) (mixed : Bool) :
    List String → Option (Switch × String) → Chosen → Except Fault (Chosen × List String)
  | [], none, c => .ok (c, [])
  | [], some (_, name), _ => .error (.missingValue name)
  | value :: rest, some (s, _), c => readOptions switches mixed rest none (c.take s value)
  | argument :: rest, none, c =>
    if argument = "--" then .ok (c, rest)
    else
      match said switches argument with
      | .error fault => .error fault
      | .ok (.complete s value) => readOptions switches mixed rest none (c.take s value)
      | .ok (.awaits s name) => readOptions switches mixed rest (some (s, name)) c
      | .ok .plain =>
        if mixed then
          (readOptions switches mixed rest none c).map fun r => (r.1, argument :: r.2)
        else .ok (c, argument :: rest)

/-! ### Requests -/

inductive Request
  | help (command : Option Command)
  | run (debug : Bool) (command : Command) (config : Option String)
  deriving DecidableEq, Repr

/-- A fault and the command whose arguments it lies in, if it is not one of the program itself. -/
abbrev Refused := Option Command × Fault

def commandRequest (debug : Bool) (command : Command) (arguments : List String) :
    Except Refused Request :=
  match readOptions command.switches true arguments none {} with
  | .error fault => .error (some command, fault)
  | .ok (chosen, rest) =>
    if chosen.help then .ok (.help (some command))
    else if rest.isEmpty then .ok (.run debug command chosen.config)
    else .error (some command, .extraArguments rest)

/-- What becomes of a name that no command has: when it looks like an option it is read as one
after all. -/
def unknownCommand (name : String) (rest : List String) : Except Refused Request :=
  let fault : Except Refused Request :=
    .error (none, .unknownCommand name (Text.closeWords name (Command.all.map Command.name)))
  match readOptions programSwitches false (name :: rest) none {} with
  | .error fault => .error (none, fault)
  | .ok (chosen, _) => if chosen.help then .ok (.help none) else fault

def request (arguments : List String) : Except Refused Request :=
  if arguments.isEmpty then .error (none, .noArguments)
  else
    match readOptions programSwitches false arguments none {} with
    | .error fault => .error (none, fault)
    | .ok (chosen, rest) =>
      if chosen.help then .ok (.help none)
      else
        match rest with
        | [] => .error (none, .noCommand)
        | name :: rest =>
          match Command.ofName? name with
          | some command => commandRequest chosen.debug command rest
          | none => unknownCommand name rest

end CloudCredentials.CommandLine
