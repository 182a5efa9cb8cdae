import PluginAudit.Report.Json
import PluginAudit.Run
import PluginAudit.Text.Json.Reader

/-!
# Requests of the administration page

The administration page drives a run in four requests: one sets up the runtime
environment, one lists the checks, one runs them, and one removes the
environment.  Every request carries a nonce and is answered by a message and by
whether it succeeded.
-/

namespace PluginAudit

open PluginAudit.Text

inductive AdminAction
  | setUpEnvironment
  | listChecks
  | runChecks
  | cleanUpEnvironment
deriving DecidableEq, Inhabited

namespace AdminAction

def name : AdminAction → String
  | setUpEnvironment => "plugin_check_set_up_environment"
  | listChecks => "plugin_check_get_checks_to_run"
  | runChecks => "plugin_check_run_checks"
  | cleanUpEnvironment => "plugin_check_clean_up_environment"

def all : List AdminAction := [setUpEnvironment, listChecks, runChecks, cleanUpEnvironment]

def named? (text : String) : Option AdminAction := all.find? fun action => action.name == text

/-- The action that nonces of requests belong to. -/
def nonceAction : String := "plugin-check-run-checks"

end AdminAction

structure AdminRequest where
  action : String
  nonce : String := ""
  /-- The plugin, empty if none is given. -/
  plugin : String := ""
  checks : List String := []
  excluded : List String := []
  categories : List String := []
  includesExperimental : Bool := false
deriving DecidableEq, Inhabited

namespace AdminRequest

/-- The names of the members of a request, in the order they may be listed in. -/
def members : List String :=
  ["action", "nonce", "plugin", "checks", "exclude_checks", "categories", "include_experimental"]

def ofJson? (value : Json) : Option AdminRequest :=
  match Json.record? members value with
  | some [some action, nonce, plugin, checks, excluded, categories, experimental] => do
      return {
        action := ← action.text?
        nonce := ← Json.orDefault Json.text? "" nonce
        plugin := ← Json.orDefault Json.text? "" plugin
        checks := ← Json.orDefault (Json.list? Json.text?) [] checks
        excluded := ← Json.orDefault (Json.list? Json.text?) [] excluded
        categories := ← Json.orDefault (Json.list? Json.text?) [] categories
        includesExperimental := ← Json.orDefault Json.bool? false experimental }
  | _ => none

/-- Whether a request names an action and carries a nonce for it. -/
def isAuthorized (q : AdminRequest) (host : Host) : Bool :=
  (AdminAction.named? q.action).isSome && host.acceptsNonce q.nonce AdminAction.nonceAction

/-- What the run behind a request is asked to do. -/
def toRunRequest (q : AdminRequest) (host : Host) : RunRequest where
  isPluginCheck := q.isAuthorized host
  plugin := if q.plugin.isEmpty then none else some q.plugin
  checks := q.checks
  excluded := q.excluded
  categories := q.categories.map Category.named
  includesExperimental := q.includesExperimental

end AdminRequest

structure AdminResponse where
  success : Bool
  data : Json
deriving Inhabited

namespace AdminResponse

def ofOutcome : Except Error Json → AdminResponse
  | .ok data => ⟨true, data⟩
  | .error e => ⟨false, .object [("message", .text e.message)]⟩

def toJson (a : AdminResponse) : Json :=
  .object [("success", .bool a.success), ("data", a.data)]

end AdminResponse

/-- What answers the requests of the administration page. -/
structure Administration where
  repository : CheckRepository
  settings : RunSettings := {}
deriving Inhabited

namespace Administration

def said (text : String) : Json := .object [("message", .text text)]

/-- Carry out a change of the runtime environment if there are runtime checks to
run. -/
def ifRuntime (run : Run) (change : Act Unit) (done skipped : String) : Act Json := fun world =>
  match run.checksToRun world with
  | ⟨.error e, _, world⟩ => (.error e, world)
  | ⟨.ok checks, _, world⟩ =>
      if checks.hasRuntime then
        match change.runIn world with
        | (.error e, world) => (.error e, world)
        | (.ok (), world) => (.ok (said done), world)
      else (.ok (said skipped), world)

def answerChecks (run : Run) : Act Json := fun world =>
  match run.checksToRun world with
  | ⟨.error e, _, world⟩ => (.error e, world)
  | ⟨.ok checks, run, world⟩ =>
      match run.pluginBasename world with
      | .error e => (.error e, world)
      | .ok basename =>
          (.ok (.object [("plugin", .text basename),
            ("checks", .list (checks.slugs.map Json.text))]), world)

/-- Run the checks and answer what they found. -/
def answerFindings (run : Run) : Act Json := fun world =>
  match run.execute world with
  | ⟨.error e, run, world⟩ => (.error e, run.release world)
  | ⟨.ok findings, run, world⟩ =>
      (.ok (.object [("message", .text "Checks run successfully."),
        ("errors", findings.errors.toJson), ("warnings", findings.warnings.toJson)]),
        run.release world)

def act (a : Administration) (run : Run) : AdminAction → Act Json
  | .setUpEnvironment =>
      ifRuntime run (RuntimeEnvironment.setUp a.settings.testingPrefix)
        "Runtime environment set up successfully."
        "No runtime checks, runtime environment was not set up."
  | .listChecks => answerChecks run
  | .runChecks => answerFindings run
  | .cleanUpEnvironment =>
      ifRuntime run (RuntimeEnvironment.cleanUp a.settings.testingPrefix)
        "Runtime environment cleaned up successfully."
        "No runtime checks, runtime environment was not cleaned up."

def dispatch (a : Administration) (q : AdminRequest) : Act Json := fun world =>
  match AdminAction.named? q.action with
  | none => (.error (.argument ("unknown action " ++ q.action)), world)
  | some action =>
      let request := q.toRunRequest world.host
      if request.isPluginCheck then
        (a.act (.ofRequest a.repository request a.settings) action).runIn world
      else (.error (.argument "invalid nonce"), world)

def handle (a : Administration) (q : AdminRequest) (world : World) : AdminResponse × World :=
  let (outcome, world) := (a.dispatch q).runIn world
  (.ofOutcome outcome, world)

def handleText (a : Administration) (body : String) (world : World) : AdminResponse × World :=
  match (Json.parse? body).bind AdminRequest.ofJson? with
  | some q => a.handle q world
  | none => (.ofOutcome (.error (.argument "invalid request: not a request in JSON")), world)

end Administration

end PluginAudit
