import PluginAudit.Category
import PluginAudit.Findings
import PluginAudit.Preparation

/-!
# Checks

A check looks at one plugin and gives its findings.  It may break; what it found
before that counts all the same.
-/

namespace PluginAudit

inductive ExecutionMode
  | static
  /-- It needs the plugin to be active on a site that answers requests. -/
  | runtime
deriving DecidableEq, Inhabited

def ExecutionMode.name : ExecutionMode → String
  | .static => "static"
  | .runtime => "runtime"

/-- Whether a check is run unless it is asked for. -/
inductive Stability
  | stable
  /-- It is run only when experimental checks are asked for. -/
  | experimental
deriving DecidableEq, Inhabited

def Stability.name : Stability → String
  | .stable => "stable"
  | .experimental => "experimental"

/-- What a check found, and why it broke if it did. -/
structure CheckOutcome where
  /-- The findings in the order they were made in. -/
  findings : List Finding := []
  failure : Option Error := none
deriving DecidableEq, Inhabited

namespace CheckOutcome

/-- Findings of a check that did not break. -/
def found (findings : List Finding) : CheckOutcome := { findings }

def broken (failure : Error) : CheckOutcome := { failure := some failure }

/-- One part of a check, then another, unless the first one broke. -/
def andThen (first : CheckOutcome) (second : CheckOutcome) : CheckOutcome :=
  match first.failure with
  | some _ => first
  | none => { second with findings := first.findings ++ second.findings }

/-- A part of a check that needs a value; without it the check breaks. -/
def needing {α : Type} (value : Except Error α) (part : α → CheckOutcome) : CheckOutcome :=
  match value with
  | .ok a => part a
  | .error e => broken e

/-- One part of a check for each item, up to the first that breaks. -/
def each {α : Type} (items : List α) (part : α → CheckOutcome) : CheckOutcome :=
  items.foldl (fun outcome item => outcome.andThen (part item)) {}

end CheckOutcome

structure Check where
  mode : ExecutionMode := .static
  /-- Whether it is run unless it is asked for. -/
  stability : Stability := .stable
  categories : List Category
  description : String := ""
  documentation : String := ""
  /-- The preparations it needs and may share with other checks. -/
  sharedPreparations : Host → List SharedPreparation := fun _ => []
  /-- The preparation of its own, which is made around its run. -/
  preparation : Option Preparation := none
  /-- Why it cannot run, if it cannot. -/
  unavailability : World → Option String := fun _ => none
  run : PluginContext → World → CheckOutcome × World
deriving Inhabited

namespace Check

/-- Whether a check needs a site that answers requests. -/
def isRuntime (check : Check) : Bool := check.mode == .runtime

def isExperimental (check : Check) : Bool := check.stability == .experimental

end Check

end PluginAudit
