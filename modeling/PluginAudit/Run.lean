import PluginAudit.Audit
import PluginAudit.Preparation.Universal
import PluginAudit.Run.Selection
import PluginAudit.Run.Shared
import PluginAudit.RuntimeEnvironment

/-!
# Runs

A run finds out which plugin and which checks are wanted, prepares the site,
runs the checks and undoes the preparations:

    idle ──prepare──▶ prepared ──run──▶ ran ──clean up──▶ cleaned up

A run that is given up before it was cleaned up is cleaned up then.  What an
entry point asked for when the run was made must not change later.
-/

namespace PluginAudit

open PluginAudit.Text

inductive RunState
  | idle
  | prepared
  | ran
  | cleanedUp
deriving DecidableEq, Inhabited

def RunState.name : RunState → String
  | .idle => "Idle"
  | .prepared => "Prepared"
  | .ran => "Ran"
  | .cleanedUp => "CleanedUp"

/-- What was set for a run in place of what its request says. -/
structure RunOverrides where
  plugin : Option String := none
  checks : Option (List String) := none
  excluded : Option (List String) := none
  categories : Option (List Category) := none
  includesExperimental : Option Bool := none
deriving DecidableEq, Inhabited

/-- What was asked for when a run was made. -/
structure RunSnapshot where
  plugin : Option String
  checks : List String
deriving DecidableEq, Inhabited

/-- What a run has found out about its plugin and its checks. -/
structure RunTarget where
  basename : String
  audit : Audit
  selected : CheckCollection
deriving Inhabited

structure Run where
  repository : CheckRepository
  request : RunRequest
  settings : RunSettings := {}
  extensions : List Extension := []
  overrides : RunOverrides := {}
  /-- What was asked for at first, if checks of a plugin were. -/
  snapshot : Option RunSnapshot
  state : RunState := .idle
  /-- The plugin and the checks, once they are known. -/
  target : Option RunTarget := none
  /-- What undoes the preparations, while there is something to undo. -/
  cleanup : Option Cleanup := none
deriving Inhabited

/-- What became of a step of a run. -/
structure RunStep (α : Type) where
  /-- The value, or why the step failed. -/
  outcome : Except Error α
  run : Run
  world : World

namespace Run

/-- A new run of what an entry point asks for. -/
def ofRequest (repository : CheckRepository) (request : RunRequest)
    (settings : RunSettings := {}) (extensions : List Extension := []) : Run where
  repository := repository
  request := request
  settings := settings
  extensions := extensions
  snapshot := if request.isPluginCheck then some ⟨request.plugin, request.checks⟩ else none

/-! ## Setting wishes -/

def withPlugin (r : Run) (plugin : String) : Run :=
  { r with overrides := { r.overrides with plugin := some plugin } }

def withChecks (r : Run) (checks : List String) : Run :=
  { r with overrides := { r.overrides with checks := some checks } }

/-- Set the slugs of checks not to run. -/
def withExcluded (r : Run) (checks : List String) : Run :=
  { r with overrides := { r.overrides with excluded := some checks } }

def withCategories (r : Run) (categories : List Category) : Run :=
  { r with overrides := { r.overrides with categories := some categories } }

def withExperimental (r : Run) (included : Bool) : Run :=
  { r with overrides := { r.overrides with includesExperimental := some included } }

/-! ## Wishes -/

def requestedPlugin (r : Run) : Except Error String :=
  match r.overrides.plugin.or r.request.plugin with
  | some plugin =>
      if isBlankText plugin.toList then .error (.invalidPlugin "no plugin given") else .ok plugin
  | none => .error (.invalidPlugin "no plugin given")

/-- The slugs of the checks that are asked for. -/
def requestedChecks (r : Run) : List String := r.overrides.checks.getD r.request.checks

def selection (r : Run) : Selection where
  checks := r.requestedChecks
  excluded := r.overrides.excluded.getD r.request.excluded
  categories := r.overrides.categories.getD r.request.categories
  includesExperimental :=
    r.overrides.includesExperimental.getD r.request.includesExperimental

/-- Refuse a plugin or checks that differ from those asked for at first. -/
def refuseChange (r : Run) (plugin : String) (checks : List String) : Except Error Unit :=
  match r.snapshot with
  | none => .ok ()
  | some first =>
      if first.plugin.any (· != plugin) then
        .error (.invalidPlugin ("the plugin to check changed from " ++ first.plugin.getD "" ++
          " to " ++ plugin))
      else if first.checks != checks then
        .error (.invalidChecks "the checks to run changed since the run started")
      else .ok ()

/-- The plugin that is asked for, unless the wishes were changed. -/
def confirmedPlugin (r : Run) : Except Error String :=
  match r.requestedPlugin with
  | .error e => .error e
  | .ok plugin => (r.refuseChange plugin r.requestedChecks).map fun () => plugin

/-- The basename of an installed plugin that a user named. -/
def basenameOf (plugin : String) (world : World) : Except Error String :=
  match world.host.installedPlugins world.disk with
  | .error e => .error e
  | .ok installed => InstalledPlugins.resolve installed plugin

/-- The basename of the plugin that is asked for. -/
def pluginBasename (r : Run) (world : World) : Except Error String :=
  match r.requestedPlugin with
  | .error e => .error e
  | .ok plugin => basenameOf plugin world

/-! ## Plugin and checks -/

def contextOf (basename : String) (host : Host) : PluginContext :=
  .ofMainFile (host.pluginsDirectory.join basename) host.pluginsDirectory host.pluginsAddress

/-- Find out the checks to run on a plugin. -/
def findTarget (r : Run) (basename : String) : Act RunTarget := fun world =>
  let audit : Audit :=
    { context := contextOf basename world.host
      repository := r.repository
      extensions := r.extensions }
  match audit.checks.runIn world with
  | (.error e, world) => (.error e, world)
  | (.ok (all, audit), world) =>
      match r.selection.select world all with
      | .error e => (.error e, world)
      | .ok selected => (.ok ⟨basename, audit, selected⟩, world)

/-- Find out the plugin and the checks to run. -/
def resolve (r : Run) (world : World) : RunStep RunTarget :=
  match r.confirmedPlugin with
  | .error e => ⟨.error e, r, world⟩
  | .ok plugin =>
      match r.target with
      -- what was found out stays, whatever becomes of the site
      | some known => ⟨.ok known, r, world⟩
      | none =>
          match basenameOf plugin world with
          | .error e => ⟨.error e, r, world⟩
          | .ok basename =>
              match (r.findTarget basename).runIn world with
              | (.error e, world) => ⟨.error e, r, world⟩
              | (.ok target, world) => ⟨.ok target, { r with target := some target }, world⟩

def checksToRun (r : Run) (world : World) : RunStep CheckCollection :=
  let step := r.resolve world
  ⟨step.outcome.map RunTarget.selected, step.run, step.world⟩

/-! ## Preparing -/

/-- The cleanup of all preparations of a run. -/
def combined (parts : List Cleanup) : Cleanup := .chain "runner" parts

/-- Undo the preparations made so far and fail. -/
def abandon (parts : List Cleanup) (failure : Error) : Act Cleanup := fun world =>
  (.error failure, ((combined parts).release.runIn world).2)

/-- Use the testing prefix, behind other preparations. -/
def switchPrefix (r : Run) (parts : List Cleanup) : Act Cleanup := fun world =>
  let previous := world.host.tablePrefix
  match (Act.tryHost fun host => host.useTablePrefix r.settings.testingPrefix).runIn world with
  | (.error e, world) => (abandon parts e).runIn world
  | (.ok (), world) =>
      let back : Cleanup :=
        .of "table_prefix" (.tryHost fun host => host.useTablePrefix previous)
      (.ok (combined (parts ++ [back])), world)

/-- Use the minimal theme, force the plugin to be the only active one, and use
the testing prefix, behind other preparations. -/
def isolate (r : Run) (basename : String) (parts : List Cleanup) : Act Cleanup := fun world =>
  let universal := UniversalPreparation.prepare basename r.settings.tool r.settings.themeDirectory
  match universal.runIn world with
  | (.error e, world) => (abandon parts e).runIn world
  | (.ok cleanup, world) => (r.switchPrefix (parts ++ [cleanup])).runIn world

def prepareRuntime (r : Run) (basename : String) : Act Cleanup := fun world =>
  if r.request.managesEnvironment then
    let pre := r.settings.testingPrefix
    match (RuntimeEnvironment.setUp pre).runIn world with
    | (.error e, world) => (abandon [] e).runIn world
    | (.ok (), world) =>
        let remove : Cleanup := .of "runtime_environment" (RuntimeEnvironment.cleanUp pre)
        (r.isolate basename [remove]).runIn world
  else (r.isolate basename []).runIn world

/-- Prepare the site for the checks of a target. -/
def prepareSite (r : Run) (target : RunTarget) : Preparation :=
  if target.selected.hasRuntime then r.prepareRuntime target.basename else pure .noop

/-- Prepare the site for the checks to run. -/
def prepare (r : Run) (world : World) : RunStep Unit :=
  if r.state != .idle then
    ⟨.error (.internal ("cannot prepare a runner in state " ++ r.state.name)), r, world⟩
  else
    match r.resolve world with
    | ⟨.error e, r, world⟩ => ⟨.error e, r, world⟩
    | ⟨.ok target, r, world⟩ =>
        match (r.prepareSite target).runIn world with
        | (.error e, world) => ⟨.error e, r, world⟩
        | (.ok cleanup, world) =>
            ⟨.ok (), { r with cleanup := some cleanup, state := .prepared }, world⟩

/-! ## Running -/

def runChecks (target : RunTarget) : Act Findings := fun world =>
  match target.audit.runAll target.selected.slugs world with
  | (⟨_, some e, _⟩, world) => (.error e, world)
  | (⟨findings, none, _⟩, world) => (.ok findings, world)

/-- Run the checks of a target with their shared preparations around them. -/
def runShared (target : RunTarget) : Act Findings := fun world =>
  match (Shared.prepareAll target.selected).runIn world with
  | (.error e, world) => (.error e, world)
  | (.ok cleanup, world) => (cleanup.guarded (runChecks target)).runIn world

/-- Run the checks on a site that is prepared. -/
def runPrepared (r : Run) (world : World) : RunStep Findings :=
  match r.confirmedPlugin with
  | .error e => ⟨.error e, r, world⟩
  | .ok _ =>
      match r.target with
      | none => ⟨.error (.internal "runner was not prepared"), r, world⟩
      | some target =>
          match (runShared target).runIn world with
          | (.error e, world) => ⟨.error e, r, world⟩
          | (.ok findings, world) => ⟨.ok findings, { r with state := .ran }, world⟩

/-- Run the checks; a run that is idle is prepared first. -/
def run (r : Run) (world : World) : RunStep Findings :=
  match r.state with
  | .idle =>
      match r.prepare world with
      | ⟨.error e, r, world⟩ => ⟨.error e, r, world⟩
      | ⟨.ok (), r, world⟩ => r.runPrepared world
  | .prepared => r.runPrepared world
  | state =>
      ⟨.error (.internal ("cannot run a runner in state " ++ state.name)), r, world⟩

/-! ## Cleaning up -/

def cleanUp (r : Run) (world : World) : RunStep Unit :=
  let (outcome, world) := (r.cleanup.getD .noop).run.runIn world
  ⟨outcome, { r with state := .cleanedUp, cleanup := none }, world⟩

/-- Give a run up: what is still prepared is undone, and a failure of that is
passed over. -/
def release (r : Run) (world : World) : World :=
  ((r.cleanup.getD .noop).release.runIn world).2

def execute (r : Run) (world : World) : RunStep Findings :=
  match r.prepare world with
  | ⟨.error e, r, world⟩ => ⟨.error e, r, world⟩
  | ⟨.ok (), r, world⟩ =>
      let ran := r.run world
      let cleaned := ran.run.cleanUp ran.world
      let outcome :=
        match ran.outcome, cleaned.outcome with
        | .ok findings, .ok () => .ok findings
        | .ok _, .error e => .error e
        -- of two failures that of the checks is given
        | .error e, _ => .error e
      ⟨outcome, cleaned.run, cleaned.world⟩

end Run

end PluginAudit
