import PluginAudit.SortedList
import PluginAudit.Text.Slicing

/-!
# Grammar of command lines

How the words of a command line are read against a list of options and
positional arguments:

* `--name`, `--name=value` and `--name value` for long options;
* `-n`, `-nvalue`, `-n=value` and `-n value` for short ones, flags joined
  before them;
* `--` ends the options;
* the name of a command ends the words of its surroundings.

A value that stands in a word of its own is examined only when the next option
or argument begins, so that of two faults the one that shows first is reported.
-/

namespace PluginAudit

open PluginAudit.Text

/-- What is wrong with a command line, or what it asks for in place of a
command. -/
inductive UsageFault
  /-- An option or argument that is not known. -/
  | unknownArgument
  | unknownCommand
  /-- A value that an option does not take, or none where it takes one. -/
  | invalidValue
  | unexpectedValue
  | repeated
  | missingArgument
  /-- The help of a command, or of the program, is asked for. -/
  | help (command : Option String)
  /-- The version of a command, or of the program, is asked for. -/
  | version (command : Option String)
deriving DecidableEq, Inhabited

inductive OptionKind
  /-- Nothing; it is given or not. -/
  | flag
  | text
  /-- A path, which is not empty. -/
  | path
  | choice (words : List String)
  | help
  | version
deriving DecidableEq, Inhabited

structure OptionRule where
  name : String
  short : Option Char := none
  kind : OptionKind
deriving DecidableEq, Inhabited

namespace OptionRule

def takesValue (rule : OptionRule) : Bool :=
  match rule.kind with
  | .text | .path | .choice _ => true
  | .flag | .help | .version => false

/-- Whether an option takes a value as it is written. -/
def accepts (rule : OptionRule) (value : String) : Bool :=
  match rule.kind with
  | .choice words => words.contains value
  | .path => !value.isEmpty
  | .text | .flag | .help | .version => true

end OptionRule

/-- What may be said to a command, or to the program before a command. -/
structure CommandRule where
  /-- The name of the command; the program itself has none. -/
  command : Option String
  options : List OptionRule
  /-- The names of the positional arguments, all of which are required. -/
  positionals : List String := []
  commands : List String := []
deriving DecidableEq, Inhabited

/-- The values that were given, by the name of the option or argument. -/
abbrev GivenValues := List (String × String)

/-- A value that was not examined yet. -/
inductive PendingValue
  /-- The value of an option, or none if the option still waits for it. -/
  | option (rule : OptionRule) (value : Option String)
  | positional (name value : String)
deriving DecidableEq

structure Reading where
  given : GivenValues := []
  /-- The value that was not. -/
  pending : Option PendingValue := none
  expected : List String
  optionsEnded : Bool := false
deriving DecidableEq

namespace Reading

/-- Record the value of an option that has not been given before. -/
def record (r : Reading) (rule : OptionRule) (value : String) : Except UsageFault Reading :=
  if Assoc.contains rule.name r.given then .error .repeated
  else if rule.accepts value then
    .ok { r with given := r.given ++ [(rule.name, value)] }
  else .error .invalidValue

def settle (r : Reading) : Except UsageFault Reading :=
  let settled : Reading := { r with pending := none }
  match r.pending with
  | none => .ok settled
  | some (.option _ none) => .error .invalidValue
  | some (.option rule (some value)) => settled.record rule value
  | some (.positional name value) =>
      .ok { settled with given := settled.given ++ [(name, value)] }

/-- The option that waits for the next word as its value. -/
def waiting? (r : Reading) : Option OptionRule :=
  match r.pending with
  | some (.option rule none) => if r.optionsEnded then none else some rule
  | _ => none

def beginOption (r : Reading) (rule : OptionRule) (attached : Option String) :
    Except UsageFault Reading :=
  match r.settle with
  | .error fault => .error fault
  | .ok settled =>
      match attached with
      | some value => settled.record rule value
      | none => .ok { settled with pending := some (.option rule none) }

def takeFlag (r : Reading) (command : Option String) (rule : OptionRule) :
    Except UsageFault Reading :=
  match r.settle with
  | .error fault => .error fault
  | .ok settled =>
      match rule.kind with
      | .help => .error (.help command)
      | .version => .error (.version command)
      | _ => settled.record rule "true"

/-- Take a long option, given what stands behind its dashes. -/
def takeLong (rule : CommandRule) (r : Reading) (text : List Char) : Except UsageFault Reading :=
  let (name, attached) :=
    match splitOnce? '=' text with
    | some (name, value) => (String.ofList name, some (String.ofList value))
    | none => (String.ofList text, none)
  match rule.options.find? fun option => option.name == name with
  | none => .error .unknownArgument
  | some option =>
      if option.takesValue then r.beginOption option attached
      else if attached.isSome then .error .unexpectedValue
      else r.takeFlag rule.command option

/-- The value that is joined to a short option, if there is one. -/
def joinedValue? : List Char → Option String
  | [] => none
  | '=' :: value => some (String.ofList value)
  | value => some (String.ofList value)

/-- Take short options that are joined in one word. -/
def takeShort (rule : CommandRule) (r : Reading) : List Char → Except UsageFault Reading
  | [] => .ok r
  | c :: rest =>
      match rule.options.find? fun option => option.short == some c with
      | none => .error .unknownArgument
      | some option =>
          if option.takesValue then r.beginOption option (joinedValue? rest)
          else
            match r.takeFlag rule.command option with
            | .error fault => .error fault
            | .ok taken => takeShort rule taken rest

/-- The fault of an argument that nothing waits for. -/
def surplus (rule : CommandRule) (r : Reading) (word : String) : UsageFault :=
  if r.optionsEnded && rule.commands.contains word then .unknownArgument
  else if rule.commands.isEmpty then .unknownArgument
  else .unknownCommand

def takePositional (rule : CommandRule) (r : Reading) (word : String) :
    Except UsageFault Reading :=
  match r.expected with
  | [] => .error (r.surplus rule word)
  | name :: names =>
      r.settle.map fun settled =>
        { settled with pending := some (.positional name word), expected := names }

/-- Take a word that is not the name of a command. -/
def take (rule : CommandRule) (r : Reading) (word : String) : Except UsageFault Reading :=
  if r.optionsEnded then r.takePositional rule word
  else
    match word.toList with
    | ['-', '-'] => .ok { r with optionsEnded := true }
    | '-' :: '-' :: text => r.takeLong rule text
    | '-' :: c :: rest => r.takeShort rule (c :: rest)
    | _ =>
        match r.waiting? with
        | some option => .ok { r with pending := some (.option option (some word)) }
        | none => r.takePositional rule word

end Reading

namespace CommandRule

def start (rule : CommandRule) : Reading := { expected := rule.positionals }

/-- Whether a word is the name of a command at this place. -/
def entersCommand (rule : CommandRule) (r : Reading) (word : String) : Bool :=
  !r.optionsEnded && r.waiting?.isNone && rule.commands.contains word

/-- Take words up to the name of a command, which is given with the words behind
it. -/
def takeWords (rule : CommandRule) (r : Reading) :
    List String → Except UsageFault (Reading × Option (String × List String))
  | [] => .ok (r, none)
  | word :: rest =>
      if rule.entersCommand r word then .ok (r, some (word, rest))
      else
        match r.take rule word with
        | .error fault => .error fault
        | .ok taken => takeWords rule taken rest

/-- The values that were given, once all words are read. -/
def finish (rule : CommandRule) (r : Reading) (fallbacks : GivenValues) :
    Except UsageFault GivenValues :=
  match r.settle with
  | .error fault => .error fault
  | .ok settled =>
      -- values of the environment are examined where the words give none
      let refused := rule.options.any fun option =>
        !Assoc.contains option.name settled.given &&
          (Assoc.get? option.name fallbacks).any fun value => !option.accepts value
      if refused then .error .invalidValue
      else if settled.expected.isEmpty then .ok settled.given
      else .error .missingArgument

end CommandRule

end PluginAudit
