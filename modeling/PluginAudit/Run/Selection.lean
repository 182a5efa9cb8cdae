import PluginAudit.Check.Collection
import PluginAudit.Run.Request

/-!
# The checks of a run

From the checks there are, a run takes those that were asked for and that can
run.  A check that cannot run is left out, unless it was asked for by name; then
there is no run.
-/

namespace PluginAudit

structure Selection where
  /-- The slugs of the checks; all of them if there are none. -/
  checks : List String := []
  /-- The slugs of checks that are not wanted. -/
  excluded : List String := []
  /-- The categories of the checks; all of them if there are none. -/
  categories : List Category := []
  includesExperimental : Bool := false
deriving DecidableEq, Inhabited

/-- Why a check cannot run in a world, if it cannot. -/
def Check.obstacle (check : Check) (world : World) : Option String :=
  match check.unavailability world with
  | some reason => some reason
  | none =>
      if check.isRuntime && !world.host.answersRequests then
        some "the host cannot simulate front-end requests"
      else none

namespace Selection

def admitted (s : Selection) (all : CheckCollection) : CheckCollection :=
  if s.includesExperimental then all else all.filter fun _ check => !check.isExperimental

/-- The wanted checks, whether they can run or not. -/
def candidates (s : Selection) (all : CheckCollection) : Except Error CheckCollection :=
  ((s.admitted all).requiring s.checks).map fun known =>
    let kept := (known.including s.checks).excluding s.excluded
    if s.categories.isEmpty then kept else kept.inCategories s.categories

/-- The first check that was asked for by name and cannot run. -/
def firstObstacle? (s : Selection) (world : World) : List (String × Check) → Option Error
  | [] => none
  | (slug, check) :: rest =>
      match check.obstacle world with
      | some reason =>
          if s.checks.contains slug then some (.checkUnavailable slug reason)
          else s.firstObstacle? world rest
      | none => s.firstObstacle? world rest

def select (s : Selection) (world : World) (all : CheckCollection) :
    Except Error CheckCollection :=
  match s.candidates all with
  | .error e => .error e
  | .ok wanted =>
      match s.firstObstacle? world wanted.entries with
      | some e => .error e
      | none => .ok (wanted.filter fun _ check => (check.obstacle world).isNone)

end Selection

end PluginAudit
