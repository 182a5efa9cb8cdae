import PluginAudit.Run

/-!
# Calls of a run

What can be done with a run, as data, so that a history of calls can be carried
out and reasoned about as a whole.
-/

namespace PluginAudit

inductive RunCall
  | setPlugin (plugin : String)
  | setChecks (checks : List String)
  /-- Set the slugs of checks not to run. -/
  | setExcluded (checks : List String)
  | setCategories (categories : List Category)
  | setExperimental (included : Bool)
  /-- What the entry point asks for is another request from now on. -/
  | setRequest (request : RunRequest)
  | checksToRun
  | pluginBasename
  | prepare
  | run
  | execute
  | cleanUp
deriving Inhabited

inductive RunAnswer
  | done
  | checks (slugs : List String)
  | basename (name : String)
  | findings (found : Findings)
  | failure (e : Error)
deriving DecidableEq, Inhabited

namespace RunAnswer

def ofOutcome {α : Type} (answer : α → RunAnswer) : Except Error α → RunAnswer
  | .ok value => answer value
  | .error e => .failure e

end RunAnswer

namespace RunCall

/-- A run and the world it acts on. -/
structure Scene where
  run : Run
  world : World

def after {α : Type} (answer : α → RunAnswer) (step : RunStep α) : RunAnswer × Scene :=
  (.ofOutcome answer step.outcome, ⟨step.run, step.world⟩)

def setting (s : Scene) (change : Run → Run) : RunAnswer × Scene :=
  (.done, { s with run := change s.run })

def perform (s : Scene) : RunCall → RunAnswer × Scene
  | setPlugin plugin => setting s (·.withPlugin plugin)
  | setChecks checks => setting s (·.withChecks checks)
  | setExcluded checks => setting s (·.withExcluded checks)
  | setCategories categories => setting s (·.withCategories categories)
  | setExperimental included => setting s (·.withExperimental included)
  | setRequest request => setting s fun run => { run with request }
  | checksToRun => after (fun found => .checks found.slugs) (s.run.checksToRun s.world)
  | pluginBasename => (.ofOutcome .basename (s.run.pluginBasename s.world), s)
  | prepare => after (fun () => .done) (s.run.prepare s.world)
  | run => after .findings (s.run.run s.world)
  | execute => after .findings (s.run.execute s.world)
  | cleanUp => after (fun () => .done) (s.run.cleanUp s.world)

/-- Carry out calls in turn and collect the answers. -/
def performAll (s : Scene) : List RunCall → List RunAnswer × Scene
  | [] => ([], s)
  | call :: rest =>
      let (answer, s) := call.perform s
      let (answers, s) := performAll s rest
      (answer :: answers, s)

end RunCall

end PluginAudit
