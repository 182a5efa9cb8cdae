import PluginAudit.Disk

/-!
# Failures

Why a check, a run or a command could not be carried out.  Findings about a
plugin are no failures; they are recorded in the findings of the run.
-/

namespace PluginAudit

inductive Error
  /-- A check was registered under a slug that is taken. -/
  | duplicateCheck (slug : String)
  | missingCategories (slug : String)
  | unknownCheck (slug : String)
  /-- The plugin cannot be resolved, or it changed during the run. -/
  | invalidPlugin (reason : String)
  | invalidChecks (reason : String)
  | checkUnavailable (slug reason : String)
  /-- A change of the environment could not be made. -/
  | preparation (name reason : String)
  | checkFailed (slug : String) (source : Error)
  | host (reason : String)
  /-- The linter could not be run or gave no report. -/
  | linter (reason : String)
  /-- The configuration is not valid; `path` is its file, if it has one. -/
  | config (reason : String) (path : Option Path)
  | argument (reason : String)
  | file (path : Path) (fault : FileFault)
  /-- The program is used in a way it is not made for. -/
  | internal (reason : String)
  /-- A number does not fit its type: the program stops where it is. -/
  | overflow
deriving DecidableEq, Inhabited

inductive ExitStatus
  /-- Everything ran and no error was found. -/
  | success
  | findings
  /-- The configuration, the arguments or the selection are not valid. -/
  | misuse
  /-- The site, the linter or a check broke. -/
  | breakdown
deriving DecidableEq

def ExitStatus.code : ExitStatus → Nat
  | .success => 0
  | .findings => 1
  | .misuse => 2
  | .breakdown => 3

namespace Error

def message : Error → String
  | duplicateCheck slug => s!"check slug \"{slug}\" is already registered"
  | missingCategories slug => s!"check \"{slug}\" must declare at least one category"
  | unknownCheck slug => s!"check with the slug \"{slug}\" does not exist"
  | invalidPlugin reason => "invalid plugin: " ++ reason
  | invalidChecks reason => "invalid checks: " ++ reason
  | checkUnavailable slug reason => s!"check \"{slug}\" cannot run: {reason}"
  | preparation name reason => s!"preparation {name} failed: {reason}"
  | checkFailed slug source => s!"check \"{slug}\" failed: {source.message}"
  | host reason => "host error: " ++ reason
  | linter reason => "linter error: " ++ reason
  | config reason _ => "config error: " ++ reason
  | argument reason => "argument error: " ++ reason
  | file path fault => s!"io error: {path.text}: {fault.message}"
  | internal reason => "internal error: " ++ reason
  | overflow => "attempt to add with overflow"

/-- The status a run ends with when it fails. -/
def exitStatus : Error → ExitStatus
  | duplicateCheck _ | missingCategories _ | unknownCheck _ | invalidPlugin _ | invalidChecks _
  | checkUnavailable _ _ | config _ _ | argument _ => .misuse
  | preparation _ _ | checkFailed _ _ | host _ | linter _ | file _ _ | internal _ | overflow => .breakdown

end Error

end PluginAudit
