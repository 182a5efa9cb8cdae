import PluginAudit.Check.Collection
import PluginAudit.Linter

/-!
# Rehearsals

Preparations, checks and linters that note what they are asked to do and do
nothing else, apart from failing where they are told to.  The journal of a run
with them shows what a run does, and in which order.
-/

namespace PluginAudit

open PluginAudit.Text

/-- A preparation that notes what it does. -/
structure RehearsedPreparation where
  name : String
  failsToBuild : Bool := false
  fails : Bool := false
  failsToCleanUp : Bool := false
deriving DecidableEq, Inhabited

namespace RehearsedPreparation

def kind : String := "logging"

/-- Note a line, then fail if there is a failure. -/
def noteThenFail (line : String) (failure : Option Error) : Act Unit := fun world =>
  let (_, world) := (Act.note line).runIn world
  match failure with
  | some e => (.error e, world)
  | none => (.ok (), world)

def cleanup (p : RehearsedPreparation) : Cleanup :=
  .of kind (noteThenFail ("cleanup:" ++ p.name)
    (if p.failsToCleanUp then some (.host ("cleanup of " ++ p.name ++ " failed")) else none))

def prepare (p : RehearsedPreparation) : Preparation := do
  noteThenFail ("prepare:" ++ p.name)
    (if p.fails then some (.preparation kind (p.name ++ " failed")) else none)
  return p.cleanup

/-- A request for the preparation, known by its arguments. -/
def shared (p : RehearsedPreparation) (arguments : Json) : SharedPreparation where
  name := kind
  arguments := arguments
  build _ := do
    noteThenFail ("build:" ++ p.name)
      (if p.failsToBuild then some (.internal ("cannot build " ++ p.name)) else none)
    return p.prepare

end RehearsedPreparation

namespace Rehearsal

/-- What a check finds that is not told what to find. -/
def standardFinding (slug : String) : Finding where
  severity := .warning
  text := slug ++ " ran"
  code := slug
  file := slug ++ ".php"

/-- The run of a check that notes that it is run and has given findings. -/
def run (slug : String) (findings : Option (List Finding)) (fails : Bool) (world : World) :
    CheckOutcome × World :=
  let world := ((Act.note ("run:" ++ slug)).runIn world).2
  let found := findings.getD (if fails then [] else [standardFinding slug])
  (⟨found, if fails then some (.internal (slug ++ " failed")) else none⟩, world)

/-- A linter with a given report, which is not available without one. -/
def linter (report : Option String) : Linter where
  isAvailable _ := report.isSome
  lint standard options target := do
    let shown := quotedList (options.map fun (key, value) => key ++ "=" ++ value)
    Act.note ("lint:" ++ standard ++ " " ++ shown ++ " " ++ target.text)
    Act.inspect fun _ => LinterReport.parse (report.getD "")

/-- An extension that notes that it is applied. -/
def extension (change : CheckCollection → Except Error CheckCollection) : Extension :=
  fun checks => do
    Act.note "extension"
    Act.inspect fun _ => change checks

end Rehearsal

end PluginAudit
