import PluginAudit.CommandLine.Grammar
import PluginAudit.Report.Color
import PluginAudit.Run.Arguments

/-!
# The command line

The commands of the program and their options:

    plugin-check [-C FILE] [--color WHEN] check PLUGIN [OPTIONS]
    plugin-check [-C FILE] [--color WHEN] list-checks [OPTIONS]
    plugin-check [-C FILE] [--color WHEN] list-categories [OPTIONS]

The options for the configuration and for colours may stand before or behind
the command; behind it they count more.
-/

namespace PluginAudit

/-- The form that a report is written in. -/
inductive ReportFormat
  | text
  | json
deriving DecidableEq, Inhabited

namespace ReportFormat

def name : ReportFormat → String
  | text => "text"
  | json => "json"

def named? (word : String) : Option ReportFormat :=
  if word == "text" then some text else if word == "json" then some json else none

end ReportFormat

inductive Command
  | check (selection : WrittenSelection) (ignoresWarnings ignoresErrors : Bool)
      (format : ReportFormat)
  /-- List the checks there are, or those of some categories. -/
  | listChecks (categories : Option String) (includesExperimental : Bool)
      (format : ReportFormat)
  | listCategories (format : ReportFormat)
deriving DecidableEq, Inhabited

structure CommandLine where
  config : Option String
  color : ColorMode
  command : Option Command
deriving DecidableEq, Inhabited

namespace CommandLine

/-! ## Rules -/

def commonOptions : List OptionRule :=
  [⟨"config", some 'C', .path⟩, ⟨"color", none, .choice (ColorMode.all.map ColorMode.name)⟩,
    ⟨"help", some 'h', .help⟩, ⟨"version", some 'V', .version⟩]

/-- The option for the form of a report. -/
def formatOption : OptionRule := ⟨"format", none, .choice ["text", "json"]⟩

/-- The rule of the command that checks a plugin. -/
def checkRule : CommandRule where
  command := some "check"
  options := commonOptions ++
    [⟨"checks", none, .text⟩, ⟨"exclude-checks", none, .text⟩, ⟨"categories", none, .text⟩,
      ⟨"include-experimental", none, .flag⟩, ⟨"ignore-warnings", none, .flag⟩,
      ⟨"ignore-errors", none, .flag⟩, formatOption]
  positionals := ["plugin"]

/-- The rule of the command that lists checks. -/
def listChecksRule : CommandRule where
  command := some "list-checks"
  options := commonOptions ++
    [⟨"categories", none, .text⟩, ⟨"include-experimental", none, .flag⟩, formatOption]

/-- The rule of the command that lists categories. -/
def listCategoriesRule : CommandRule where
  command := some "list-categories"
  options := commonOptions ++ [formatOption]

def commandRules : List (String × CommandRule) :=
  [("check", checkRule), ("list-checks", listChecksRule),
    ("list-categories", listCategoriesRule)]

def programRule : CommandRule where
  command := none
  options := commonOptions
  commands := commandRules.map Prod.fst ++ ["help"]

/-! ## Reading -/

/-- The fault of asking for help, or of asking for that of no command. -/
def helpFault : List String → UsageFault
  | [] => .help none
  | [word] => if programRule.commands.contains word then .help (some word) else .unknownCommand
  | _ => .unknownCommand

/-- The form of a report that is asked for. -/
def formatOf (given : GivenValues) : ReportFormat :=
  ((Assoc.get? "format" given).bind ReportFormat.named?).getD .text

def isGiven (given : GivenValues) (name : String) : Bool := Assoc.contains name given

def commandOf? (name : String) (given : GivenValues) : Option Command :=
  match name with
  | "check" =>
      some (.check
        { plugin := (Assoc.get? "plugin" given).getD ""
          checks := Assoc.get? "checks" given
          excluded := Assoc.get? "exclude-checks" given
          categories := Assoc.get? "categories" given
          includesExperimental := isGiven given "include-experimental" }
        (isGiven given "ignore-warnings") (isGiven given "ignore-errors") (formatOf given))
  | "list-checks" =>
      some (.listChecks (Assoc.get? "categories" given)
        (isGiven given "include-experimental") (formatOf given))
  | "list-categories" => some (.listCategories (formatOf given))
  | _ => none

/-- What values given behind and before a command say; `fallbacks` counts where
neither says anything. -/
def ofValues (command : Option Command) (behind before fallbacks : GivenValues) :
    CommandLine where
  config :=
    ((Assoc.get? "config" behind).or (Assoc.get? "config" before)).or
      (Assoc.get? "config" fallbacks)
  color :=
    (((Assoc.get? "color" behind).or (Assoc.get? "color" before)).bind ColorMode.named?).getD
      .auto
  command := command

/-- The values that variables of the environment give. -/
def fallbacks (vars : Variables) : GivenValues :=
  match vars.value? "PLUGIN_CHECK_CONFIG" with
  | some path => [("config", path)]
  | none => []

/-- Read the words behind the name of a command. -/
def parseCommand (name : String) (words : List String) (spare : GivenValues) :
    Except UsageFault (Option Command × GivenValues) :=
  match Assoc.get? name commandRules with
  | none => .error (helpFault words)
  | some rule =>
      match rule.takeWords rule.start words with
      | .error fault => .error fault
      | .ok (reading, _) =>
          (rule.finish reading spare).map fun given => (commandOf? name given, given)

/-- Read the words behind the name of the program. -/
def parse (words : List String) (vars : Variables) : Except UsageFault CommandLine :=
  let spare := fallbacks vars
  match programRule.takeWords programRule.start words with
  | .error fault => .error fault
  | .ok (reading, none) =>
      (programRule.finish reading spare).map fun given => ofValues none [] given spare
  | .ok (reading, some (name, rest)) =>
      match parseCommand name rest spare with
      | .error fault => .error fault
      | .ok (command, behind) =>
          (programRule.finish reading spare).map fun before => ofValues command behind before spare

end CommandLine

end PluginAudit
