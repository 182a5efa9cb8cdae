import PluginAudit.Text.Json
import PluginAudit.World

/-!
# Preparations

A preparation changes the site and gives back a cleanup that undoes the change.
A cleanup is carried out once: when its holder runs it, or when its holder gives
it up, in which case its failure is passed over.
-/

namespace PluginAudit

open PluginAudit.Text

structure Cleanup where
  /-- The name of what it undoes. -/
  label : String
  /-- What it does, if there is anything to undo. -/
  action : Option (Act Unit)
deriving Inhabited

namespace Cleanup

def of (label : String) (action : Act Unit) : Cleanup := ⟨label, some action⟩

def noop : Cleanup := ⟨"noop", none⟩

def isNoop (c : Cleanup) : Bool := c.action.isNone

def run (c : Cleanup) : Act Unit :=
  match c.action with
  | some action => action
  | none => pure ()

/-- Carry out a cleanup and pass over its failure. -/
def release (c : Cleanup) : Act Unit := c.run.discard

/-- Carry out all cleanups in order and give the first failure. -/
def runAll : List Cleanup → Act Unit
  | [] => pure ()
  | c :: rest => fun world =>
      let (outcome, world) := c.run.runIn world
      let (others, world) := (runAll rest).runIn world
      match outcome with
      | .ok () => (others, world)
      | .error e => (.error e, world)

/-- One cleanup that carries out several, the last one first.  All are carried
out, and the first failure is given. -/
def chain (label : String) (parts : List Cleanup) : Cleanup := of label (runAll parts.reverse)

/-- The form in which a cleanup is shown to someone who inspects it. -/
def inspect (c : Cleanup) : String :=
  "Cleanup \x7b label: " ++ quoted c.label ++ ", pending: " ++
    (if c.isNoop then "false" else "true") ++ " \x7d"

/-- Carry out an action, then a cleanup, whatever became of the action. -/
def guarded {α : Type} (c : Cleanup) (action : Act α) : Act α := fun world =>
  let (outcome, world) := action.runIn world
  let (undone, world) := c.run.runIn world
  -- of two failures that of the action is given
  match outcome, undone with
  | .ok value, .ok () => (.ok value, world)
  | .ok _, .error e => (.error e, world)
  | .error e, _ => (.error e, world)

end Cleanup

/-- A change of the site that can be undone. -/
abbrev Preparation := Act Cleanup

/-- A preparation that several checks may ask for and that is made once. -/
structure SharedPreparation where
  name : String
  arguments : Json
  build : Json → Act Preparation

/-- What two requests have in common when they ask for the same. -/
structure PreparationKey where
  name : String
  /-- What is asked for, as text. -/
  arguments : String
deriving DecidableEq, Inhabited

namespace SharedPreparation

def key (p : SharedPreparation) : PreparationKey := ⟨p.name, p.arguments.sorted.compact⟩

/-- The form in which a request is shown to someone who inspects it. -/
def inspect (p : SharedPreparation) : String :=
  "SharedPreparation \x7b name: " ++ quoted p.name ++ ", args: " ++ p.arguments.sorted.inspect ++
    " \x7d"

end SharedPreparation

end PluginAudit
