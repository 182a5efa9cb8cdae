import PluginAudit.Checks.EnqueuedAssets
import PluginAudit.Checks.FileType
import PluginAudit.Checks.HeaderFields
import PluginAudit.Checks.LinterRules
import PluginAudit.Checks.Obfuscation
import PluginAudit.Checks.PluginReadme
import PluginAudit.Checks.Trademarks
import PluginAudit.Checks.UnfilteredUploads
import PluginAudit.Check.Repository
import PluginAudit.Config

/-!
# The built-in checks

The repository of all checks that this library brings, set up from a
configuration.
-/

namespace PluginAudit

namespace StandardChecks

/-- The values that names stand for; all values if no names are given. -/
def parseNames {α : Type} (parse : String → Except Error α) (all : List α) :
    Option (List String) → Except Error (List α)
  | none => .ok all
  | some names => names.mapM parse

/-- The options of the walk that looks for forbidden files. -/
def walkOptions (config : CheckConfig) : WalkOptions :=
  match config.ignoredDirectories with
  | some names => { ignoredDirectories := names }
  | none => {}

/-- All checks in the order they are registered in. -/
def entries (config : CheckConfig) (environment : EnvironmentType) (linter : Linter) :
    Except Error (List (String × Check)) := do
  let kinds ← parseNames FileKind.parse FileKind.all config.fileKinds
  let tools ← parseNames ObfuscationTool.parse ObfuscationTool.all config.obfuscationTools
  let uploads ← UnfilteredUploadsCheck.check
  return [
      ("file_type", FileTypeCheck.check kinds environment (walkOptions config)),
      ("code_obfuscation", ObfuscationCheck.check tools),
      ("trademarks", Trademarks.check config.extraTerms),
      ("plugin_readme", PluginReadmeCheck.check),
      ("plugin_header_fields", HeaderFieldsCheck.check),
      ("no_unfiltered_uploads", uploads)] ++
    (LinterRule.all.map fun rule => (rule.slug, rule.check linter)) ++ [
      ("enqueued_scripts_size", EnqueuedAssets.sizeCheck .script config.scriptThreshold),
      ("enqueued_styles_size", EnqueuedAssets.sizeCheck .style config.styleThreshold),
      ("enqueued_scripts_scope", EnqueuedAssets.scopeCheck .script),
      ("enqueued_styles_scope", EnqueuedAssets.scopeCheck .style)]

def slugs : List String :=
  ["file_type", "code_obfuscation", "trademarks", "plugin_readme", "plugin_header_fields",
    "no_unfiltered_uploads"] ++ LinterRule.all.map LinterRule.slug ++
    ["enqueued_scripts_size", "enqueued_styles_size", "enqueued_scripts_scope",
      "enqueued_styles_scope"]

def repository (config : CheckConfig) (environment : EnvironmentType) (linter : Linter) :
    Except Error CheckRepository := do
  CheckRepository.registerAll {} (← entries config environment linter)

end StandardChecks

end PluginAudit
