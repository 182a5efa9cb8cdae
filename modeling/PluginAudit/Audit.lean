import PluginAudit.Check.Repository

/-!
# Auditing a plugin

The checks of one plugin: those of the repository, changed by extensions, and
how a list of them is run.  A check that broke ends the run; what was found up
to then stays.
-/

namespace PluginAudit

structure Audit where
  context : PluginContext
  repository : CheckRepository
  /-- The extensions in the order they are applied in. -/
  extensions : List Extension := []
  /-- The checks, once they are known. -/
  available : Option CheckCollection := none
deriving Inhabited

namespace Audit

def extend (extensions : List Extension) (checks : CheckCollection) : Act CheckCollection :=
  match extensions with
  | [] => pure checks
  | extension :: rest => do extend rest (← extension checks)

/-- Refuse checks without category, which only extensions can bring in. -/
def requireCategories (checks : CheckCollection) : Except Error CheckCollection :=
  match checks.entries.find? fun (_, check) => check.categories.isEmpty with
  | some (slug, _) => .error (.missingCategories slug)
  | none => .ok checks

/-- All checks of the plugin, experimental ones included. -/
def checks (audit : Audit) : Act (CheckCollection × Audit) :=
  match audit.available with
  -- extensions are applied once for an audit
  | some known => pure (known, audit)
  | none => do
      let all := audit.repository.select (CheckFlags.all.withExperimental true)
      let extended ← extend audit.extensions all
      let known ← requireCategories extended
      return (known, { audit with available := some known })

/-- Run a check and add what it finds. -/
def runPlain (slug : String) (check : Check) (findings : Findings) (world : World) :
    (Findings × Option Error) × World :=
  let (outcome, world) := check.run findings.context world
  ((findings.addAll outcome.findings, outcome.failure.map (.checkFailed slug)), world)

/-- Run a check with its own preparation around it. -/
def runCheck (slug : String) (check : Check) (findings : Findings) (world : World) :
    (Findings × Option Error) × World :=
  match check.preparation with
  | none => runPlain slug check findings world
  | some preparation =>
      match preparation.runIn world with
      | (.error e, world) => ((findings, some e), world)
      | (.ok cleanup, world) =>
          let ((findings, failure), world) := runPlain slug check findings world
          let (undone, world) := cleanup.run.runIn world
          let failure :=
            match failure, undone with
            | some e, _ => some e
            | none, .error e => some e
            | none, .ok () => none
          ((findings, failure), world)

/-- Run the checks that slugs name, each once, up to the first that breaks. -/
def runSlugs (checks : CheckCollection) (seen : List String) (findings : Findings)
    (world : World) : List String → (Findings × Option Error) × World
  | [] => ((findings, none), world)
  | slug :: rest =>
      if seen.contains slug then runSlugs checks seen findings world rest
      else
        match checks.get? slug with
        -- a slug without check is passed over
        | none => runSlugs checks (slug :: seen) findings world rest
        | some check =>
            match runCheck slug check findings world with
            | ((findings, some e), world) => ((findings, some e), world)
            | ((findings, none), world) => runSlugs checks (slug :: seen) findings world rest

structure RunOutcome where
  findings : Findings
  failure : Option Error
  /-- The audit, which knows its checks from now on. -/
  audit : Audit
deriving Inhabited

/-- Run the checks that slugs name and add what they find. -/
def runInto (audit : Audit) (slugs : List String) (findings : Findings) (world : World) :
    RunOutcome × World :=
  match audit.checks.runIn world with
  | (.error e, world) => (⟨findings, some e, audit⟩, world)
  | (.ok (known, audit), world) =>
      let ((findings, failure), world) := runSlugs known [] findings world slugs
      (⟨findings, failure, audit⟩, world)

/-- Run the checks that slugs name and give what they find. -/
def runAll (audit : Audit) (slugs : List String) (world : World) : RunOutcome × World :=
  audit.runInto slugs (.none audit.context) world

end Audit

end PluginAudit
