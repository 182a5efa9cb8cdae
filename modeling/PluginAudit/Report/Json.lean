import PluginAudit.Findings
import PluginAudit.Text.Json

/-!
# Findings as JSON

Errors and warnings by file, line and column, and their numbers.
-/

namespace PluginAudit

open PluginAudit.Text

/-- A message as JSON; a link that is missing is left out. -/
def Message.toJson (m : Message) : Json :=
  .object ([("message", .text m.text), ("code", .text m.code)] ++
    match m.link with
    | some link => [("link", .text link)]
    | none => [])

/-- Messages as JSON, by file, line and column. -/
def Messages.toJson (messages : Messages) : Json :=
  .object (messages.map fun (file, lines) =>
    (file, .object (lines.map fun (line, columns) =>
      (toString line, .object (columns.map fun (column, list) =>
        (toString column, .list (list.map Message.toJson)))))))

namespace Findings

def toJson (f : Findings) : Json :=
  .object [("errors", f.errors.toJson), ("warnings", f.warnings.toJson),
    ("error_count", .number f.errorCount), ("warning_count", .number f.warningCount)]

def toJsonText (f : Findings) : String := f.toJson.pretty ++ "\n"

end Findings

end PluginAudit
