import PluginAudit.Host

/-!
# Actions

What checks and preparations act on: the file tree, the site, and a journal in
which they note what they did.  An action changes the world and gives a value
or an error; what it changed before it failed stays changed.
-/

namespace PluginAudit

structure World where
  disk : Disk
  host : Host
  searchPath : List String := []
  /-- What was noted, in order. -/
  journal : List String := []
deriving Inhabited

abbrev Act := ExceptT Error (StateM World)

namespace Act

variable {α : Type}

/-- Carry out an action and give its outcome. -/
def outcome (action : Act α) : StateM World (Except Error α) := ExceptT.run action

def runIn (world : World) (action : Act α) : Except Error α × World := action.outcome.run world

/-- An action that only looks at the world and may fail. -/
def inspect (look : World → Except Error α) : Act α := fun world => (look world, world)

def onHost (change : Host → Host) : Act Unit := fun world =>
  (.ok (), { world with host := change world.host })

/-- Change the site, or fail and leave it as it is. -/
def tryHost (change : Host → Except Error Host) : Act Unit := fun world =>
  match change world.host with
  | .ok host => (.ok (), { world with host })
  | .error e => (.error e, world)

/-- Change the site and give a value or fail. -/
def askHost (change : Host → Host × Except Error α) : Act α := fun world =>
  -- the change stays either way
  ((change world.host).2, { world with host := (change world.host).1 })

def note (line : String) : Act Unit := fun world =>
  (.ok (), { world with journal := world.journal ++ [line] })

/-- Carry out an action and pass over its failure. -/
def discard (action : Act Unit) : Act Unit := fun world =>
  (.ok (), (action.runIn world).2)

end Act

end PluginAudit
