import PluginAudit.CommandLine
import PluginAudit.Report.Json
import PluginAudit.Report.Listing
import PluginAudit.Report.Text
import PluginAudit.Run
import PluginAudit.Session

/-!
# The program

What the program writes and how it ends, as a function of its arguments, the
variables of the environment and the file tree.
-/

namespace PluginAudit

/-- What one invocation of the program is given. -/
structure Invocation where
  /-- The words of the command line, the name of the program first. -/
  words : List String
  vars : Variables := []
  disk : Disk
  searchPath : List String := []
  terminal : Bool := false
deriving Inhabited

structure Output where
  status : ExitStatus := .success
  text : String := ""
  complaints : String := ""

namespace Program

def name : String := "plugin-check"

def version : String := "0.4.0"

def help : String :=
  "Checks WordPress plugins against the plugin directory guidelines\n\n" ++
  "Usage: plugin-check [OPTIONS] [COMMAND]\n\n" ++
  "Commands:\n" ++
  "  check            Run checks against a plugin\n" ++
  "  list-checks      List the available checks\n" ++
  "  list-categories  List the check categories\n" ++
  "  help             Print this message or the help of the given subcommand(s)\n\n" ++
  "Options:\n" ++
  "  -C, --config <CONFIG>  Use specific config file\n" ++
  "      --color <COLOR>    When to color output\n" ++
  "  -h, --help             Print help\n" ++
  "  -V, --version          Print version\n"

/-- The name of the program as a command shows it. -/
def shownName (command : Option String) : String :=
  match command with
  | some command => name ++ "-" ++ command
  | none => name

/-- What is written when the command line is not read to a command. -/
def onFault : UsageFault → Output
  | .help _ => { text := help }
  | .version command => { text := shownName command ++ " " ++ version ++ "\n" }
  | .unknownArgument => { status := .misuse, complaints := "error: unexpected argument found\n" }
  | .unknownCommand => { status := .misuse, complaints := "error: unrecognized subcommand\n" }
  | .invalidValue => { status := .misuse, complaints := "error: invalid value\n" }
  | .unexpectedValue => { status := .misuse, complaints := "error: unexpected value found\n" }
  | .repeated =>
      { status := .misuse, complaints := "error: an argument cannot be used multiple times\n" }
  | .missingArgument =>
      { status := .misuse, complaints := "error: a required argument was not provided\n" }

def onError (e : Error) : Output :=
  { status := e.exitStatus, complaints := name ++ ": " ++ e.message ++ "\n" }

def startDirectory (disk : Disk) : Path := Disk.absolutePath disk.workingDirectory

def session (i : Invocation) (line : CommandLine) : Except Error (Session × List String) :=
  Session.load i.disk (line.config.map Path.mk) (startDirectory i.disk) i.vars

def world (i : Invocation) (host : Host) : World :=
  { disk := i.disk, host := host, searchPath := i.searchPath }

def report (color : Bool) (format : ReportFormat) (findings : Findings) : String :=
  match format with
  | .text => findings.toText color
  | .json => findings.toJsonText

def check (i : Invocation) (s : Session) (selection : WrittenSelection) :
    Except Error Findings := do
  let host ← s.openHost i.disk
  let repository ← s.repository host s.linter.toLinter
  let run : Run :=
    .ofRequest repository ((Arguments.mk i.words).requestFor selection) s.runSettings
  (run.execute (world i host)).outcome

/-- The site whose checks are listed: the installation, or a simulated one if
there is none. -/
def listingHost (i : Invocation) (s : Session) : Host :=
  match s.openHost i.disk with
  | .ok host => host
  | .error _ => .simulated s.root {}

def listedChecks (i : Invocation) (s : Session) (categories : Option String)
    (includesExperimental : Bool) : Except Error CheckCollection := do
  let repository ← s.repository (listingHost i s) s.linter.toLinter
  let all := repository.select (CheckFlags.all.withExperimental includesExperimental)
  return match categories with
    | some text => all.inCategories ((listItems text).map Category.named)
    | none => all

/-- The listing of categories, which needs no configuration. -/
def categories (color : Bool) : ReportFormat → Output
  | .text => { text := Vocabulary.standard.listing color }
  | .json => { text := Vocabulary.standard.listingJson }

def carryOut (i : Invocation) (s : Session) (color : Bool) : Command → Except Error Output
  | .check selection ignoresWarnings ignoresErrors format => do
      let findings := (← check i s selection).without ignoresWarnings ignoresErrors
      return {
        status := if findings.errorCount > 0 then .findings else .success
        text := report color format findings }
  | .listChecks categories includesExperimental format => do
      let checks ← listedChecks i s categories includesExperimental
      return { text :=
        match format with
        | .text => checks.listing color
        | .json => checks.listingJson }
  | .listCategories format => .ok (categories color format)

/-- Carry out a command that needs the configuration, whose reports come
first. -/
def inSession (i : Invocation) (line : CommandLine) (color : Bool) (command : Command) :
    Output :=
  match session i line with
  | .error e => onError e
  | .ok (s, warnings) =>
      let output :=
        match carryOut i s color command with
        | .ok output => output
        | .error e => onError e
      { output with
        complaints := String.join (warnings.map (· ++ "\n")) ++ output.complaints }

/-- The variables of the environment that the program looks at. -/
def variableNames : List String :=
  ["CI", "COLOR", "NO_COLOR", "PLUGIN_CHECK_CONFIG", "PLUGIN_CHECK_WP_ROOT", "WP_ENVIRONMENT_TYPE"]

/-- The paths that decide which configuration is in force. -/
def configurationPaths (i : Invocation) : List Path :=
  let wanted :=
    match CommandLine.parse (i.words.drop 1) i.vars with
    | .ok line => (line.config.map Path.mk).toList
    | .error _ => []
  wanted ++ (Config.ancestors (startDirectory i.disk)).flatMap fun directory =>
    [directory.join Config.fileName, directory.join ".git"]

/-- The paths of trees that a command looks into once the configuration is
known: the words of the command line may be such paths, too. -/
def treePaths (i : Invocation) : List Path :=
  match CommandLine.parse (i.words.drop 1) i.vars with
  | .error _ => []
  | .ok line =>
      match session i line with
      | .error _ => []
      | .ok (s, _) =>
          let linter := s.linter.executable
          [s.root.join "wp-content", s.root.join "wp-config.php", linter] ++
            i.searchPath.map (fun directory => (Path.mk directory).join linter.text) ++
            (i.words.drop 1).map Path.mk

def run (i : Invocation) : Output :=
  match CommandLine.parse (i.words.drop 1) i.vars with
  | .error fault => onFault fault
  | .ok line =>
      let color := line.color.isColored i.vars i.terminal
      match line.command with
      | none => { text := help ++ "\n" }
      | some (.listCategories format) => categories color format
      | some command => inSession i line color command

end Program

end PluginAudit
