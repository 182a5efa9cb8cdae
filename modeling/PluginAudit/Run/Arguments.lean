import PluginAudit.Run.Request

/-!
# Requests on the command line

Two ways to a request: scanning the words of an invocation such as

    plugin-check check akismet --checks=file_type,trademarks

and taking the values that a parser of the command line has found.  The scan
knows which options take the next word as their value and nothing else of the
grammar.
-/

namespace PluginAudit

open PluginAudit.Text

/-- The values of a `check` command as they are written. -/
structure WrittenSelection where
  plugin : String
  /-- The slugs of the checks to run, with commas between them. -/
  checks : Option String := none
  /-- The slugs of checks not to run, with commas between them. -/
  excluded : Option String := none
  /-- The categories, with commas between them. -/
  categories : Option String := none
  includesExperimental : Bool := false
deriving DecidableEq, Inhabited

/-- The words of an invocation, the name of the program first. -/
structure Arguments where
  words : List String
deriving DecidableEq, Inhabited

namespace Arguments

/-- The options that take the next word as their value. -/
def valueOptions : List String :=
  ["--checks", "--exclude-checks", "--categories", "--format", "--config", "-C", "--color"]

def isDashed (word : String) : Bool := word.toList.head? == some '-'

/-- The words that are neither options nor values of options. -/
def positionalsIn : List String → List String
  | [] => []
  | [word] => if valueOptions.contains word || isDashed word then [] else [word]
  | word :: next :: rest =>
      if valueOptions.contains word then positionalsIn rest
      else if isDashed word then positionalsIn (next :: rest)
      else word :: positionalsIn (next :: rest)

/-- The words behind the name of the program that are neither options nor values
of options. -/
def positionals (a : Arguments) : List String := positionalsIn (a.words.drop 1)

/-- The value of the first option with a name, written `--name=value` or
`--name value`. -/
def optionIn? (name : String) : List String → Option String
  | [] => none
  | word :: rest =>
      match after? ("--" ++ name ++ "=").toList word.toList with
      | some value => some (String.ofList value)
      | none => if word == "--" ++ name then rest.head? else optionIn? name rest

/-- The items of the list that is the value of an option. -/
def listOf (a : Arguments) (name : String) : List String :=
  ((optionIn? name a.words).map listItems).getD []

def hasFlag (a : Arguments) (name : String) : Bool := a.words.contains ("--" ++ name)

def isCheck (a : Arguments) : Bool := a.positionals.head? == some "check"

/-- The plugin of an invocation that checks one. -/
def plugin? (a : Arguments) : Option String :=
  match a.positionals with
  | "check" :: plugin :: _ => some plugin
  | _ => none

def request (a : Arguments) : RunRequest where
  isPluginCheck := a.isCheck
  plugin := a.plugin?
  checks := a.listOf "checks"
  excluded := a.listOf "exclude-checks"
  categories := (a.listOf "categories").map Category.named
  includesExperimental := a.hasFlag "include-experimental"
  managesEnvironment := true

/-- The request of an invocation whose values were found by a parser. -/
def requestFor (a : Arguments) (s : WrittenSelection) : RunRequest where
  isPluginCheck := a.isCheck
  plugin := some s.plugin
  checks := (s.checks.map listItems).getD []
  excluded := (s.excluded.map listItems).getD []
  categories := ((s.categories.map listItems).getD []).map Category.named
  includesExperimental := s.includesExperimental
  managesEnvironment := true

end Arguments

end PluginAudit
