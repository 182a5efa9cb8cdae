import PluginAudit.Checks.Standard
import PluginAudit.Config.Discovery
import PluginAudit.Config.Warnings
import PluginAudit.Linter.Phpcs
import PluginAudit.Run.Request

/-!
# Sessions

What the commands of one invocation share: the configuration, and the site, the
linter and the checks that follow from it.  Variables of the environment win
over the configuration.
-/

namespace PluginAudit

abbrev Variables := List (String × String)

namespace Variables

/-- The value of a variable, if it is set. -/
def value? (v : Variables) (name : String) : Option String := Assoc.get? name v

def isSet (v : Variables) (name : String) : Bool := (v.value? name).isSome

/-- The value of a variable, if it is set to more than an empty text. -/
def filled? (v : Variables) (name : String) : Option String :=
  (v.value? name).filter fun text => !text.isEmpty

end Variables

structure Session where
  config : Config
  /-- The file it was read from, if there is one. -/
  configPath : Option Path
  directory : Path
  vars : Variables := []
deriving DecidableEq, Inhabited

namespace Session

/-- Load the configuration that was asked for, or else the one for a directory.
What is not known in it is reported beside the session. -/
def load (disk : Disk) (wanted : Option Path) (directory : Path) (vars : Variables) :
    Except Error (Session × List String) :=
  match Config.resolve disk wanted directory with
  | .error e => .error e
  | .ok none => .ok ({ config := {}, configPath := none, directory, vars }, [])
  | .ok (some path) =>
      (Config.loadWithWarnings disk path).map fun (config, warnings) =>
        ({ config, configPath := some path, directory, vars }, warnings)

def root (s : Session) : Path :=
  match s.vars.filled? "PLUGIN_CHECK_WP_ROOT" with
  | some text => ⟨text⟩
  | none => s.config.site.root.getD s.directory

/-- What the site is used for, if that is said anywhere. -/
def environment (s : Session) : Except Error (Option EnvironmentType) :=
  match s.vars.filled? "WP_ENVIRONMENT_TYPE" with
  | some text => (EnvironmentType.parse text).map some
  | none => .ok s.config.site.environment

def configured (s : Session) (environment : Option EnvironmentType) (host : Host) : Host :=
  let host : Host := { host with environment := environment.getD host.environment }
  let host := (s.config.site.homeAddress.map host.withHomeAddress).getD host
  (s.config.site.pluginsAddress.map host.withPluginsAddress).getD host

def openHost (s : Session) (disk : Disk) : Except Error Host := do
  let host ← Host.openInstallation disk s.root
  let environment ← s.environment
  return s.configured environment host

def linter (s : Session) : Phpcs := ⟨⟨s.config.linter⟩⟩

def runSettings (s : Session) : RunSettings where
  testingPrefix := s.config.runtime.tablePrefix
  themeDirectory := s.config.runtime.themeDirectory

def repository (s : Session) (host : Host) (linter : Linter) : Except Error CheckRepository :=
  StandardChecks.repository s.config.checks host.environment linter

end Session

end PluginAudit
