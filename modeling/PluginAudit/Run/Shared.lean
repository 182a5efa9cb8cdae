import PluginAudit.Check.Collection

/-!
# Shared preparations of a run

Checks of one run that ask for the same preparation share it: it is made once,
when the first of them asks for it.
-/

namespace PluginAudit

def SharedPreparation.prepare (request : SharedPreparation) : Act Cleanup := do
  let preparation ← request.build request.arguments
  preparation

/-- The shared preparations of a run so far. -/
structure Shared where
  /-- What was asked for. -/
  seen : List PreparationKey := []
  /-- What was made, in order. -/
  made : List Cleanup := []

namespace Shared

def combined (made : List Cleanup) : Cleanup := .chain "shared_preparations" made

/-- Make what a check asks for, unless it was asked for before. -/
def grant (shared : Shared) : List SharedPreparation → Act Shared
  | [] => pure shared
  | request :: rest =>
      if shared.seen.contains request.key then shared.grant rest
      else fun world =>
        match request.prepare.runIn world with
        | (.ok cleanup, world) =>
            grant ⟨request.key :: shared.seen, shared.made ++ [cleanup]⟩ rest world
        -- those that were made before are undone
        | (.error e, world) => (.error e, ((combined shared.made).release.runIn world).2)

/-- Ask checks in order, each on the site as it was left for those before. -/
def serve (shared : Shared) : List (String × Check) → Act Shared
  | [] => pure shared
  | (_, check) :: rest => fun world =>
      match (shared.grant (check.sharedPreparations world.host)).runIn world with
      | (.ok shared, world) => shared.serve rest world
      | (.error e, world) => (.error e, world)

/-- Make the shared preparations of checks. -/
def prepareAll (checks : CheckCollection) : Act Cleanup := do
  let shared ← serve {} checks.entries
  return combined shared.made

end Shared

end PluginAudit
