import PluginAudit.Checks.Files
import PluginAudit.Pattern

/-!
# Unfiltered uploads

A plugin must not define the constant that turns off the filter of uploads.
-/

namespace PluginAudit

namespace UnfilteredUploadsCheck

/-- The definition of the constant, in any case. -/
def definition : String :=
  "(?i)\\bdefine\\s*\\(\\s*['\"]ALLOW_UNFILTERED_UPLOADS['\"]"

def finding (path : Path) (found : Located) : Finding :=
  { severity := .error
    text := "ALLOW_UNFILTERED_UPLOADS is not permitted."
    code := "allow_unfiltered_uploads_detected"
    file := path.text
    line := found.position.line.toNat
    column := found.position.column.toNat }

/-- The findings about all source files of a plugin. -/
def look (pattern : Pattern) (context : PluginContext) (disk : Disk) : CheckOutcome :=
  .each (context.sourceFiles disk) fun file =>
    match file.source? disk with
    | some source =>
        .needing (pattern.locateAll source) fun all => .found (all.map (finding file.path))
    | none => .found []

def check : Except Error Check :=
  (Pattern.compile definition).map fun pattern =>
    .ofFiles [.pluginRepo] "Detects the definition of the ALLOW_UNFILTERED_UPLOADS constant."
      (handbook ++ "wordpress-org/detailed-plugin-guidelines/") (look pattern)

end UnfilteredUploadsCheck

end PluginAudit
