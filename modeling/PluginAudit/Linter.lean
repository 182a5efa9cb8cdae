import PluginAudit.Findings
import PluginAudit.Text.Json.Reader
import PluginAudit.World

/-!
# Linters

A linter checks files against a coding standard and gives a report, which holds
messages by file.  Its errors count as errors and all else as warnings.
-/

namespace PluginAudit

open PluginAudit.Text

structure LinterMessage where
  /-- The kind, `ERROR` for an error. -/
  kind : String
  line : Nat
  column : Nat
  source : String
  text : String
deriving DecidableEq, Inhabited

/-- The report of a linter: messages by file, in the order of the files. -/
structure LinterReport where
  files : List (String × List LinterMessage) := []
deriving DecidableEq, Inhabited

namespace LinterReport

/-- The numbers that a line or a column can be. -/
def placeLimit : Nat := Nat.pow 2 32

def messageOfJson? (value : Json) : Option LinterMessage :=
  match Json.record? ["type", "line", "column", "source", "message"] value with
  | some [some kind, line, column, source, some text] => do
      return {
        kind := ← kind.text?
        line := ← Json.orDefault (Json.nat? placeLimit) 0 line
        column := ← Json.orDefault (Json.nat? placeLimit) 0 column
        source := ← Json.orDefault Json.text? "" source
        text := ← text.text? }
  | _ => none

def fileOfJson? (value : Json) : Option (List LinterMessage) :=
  match Json.record? ["messages"] value with
  | some [messages] => Json.orDefault (Json.list? messageOfJson?) [] messages
  | _ => none

def filesOfJson? : Json → Option (List (String × List LinterMessage))
  | .object members =>
      members.foldlM (fun files (name, value) =>
        -- of a file that is named twice the last messages count
        (fileOfJson? value).map fun messages => Assoc.put textLess name messages files) []
  | _ => none

def ofJson? (value : Json) : Option LinterReport :=
  match Json.record? ["files"] value with
  | some [files] => (Json.orDefault filesOfJson? [] files).map LinterReport.mk
  | _ => none

def parse (text : String) : Except Error LinterReport :=
  match (Json.parse? text).bind ofJson? with
  | some report => .ok report
  | none => .error (.linter "invalid report: not a report in JSON")

def messageCount (report : LinterReport) : Nat :=
  report.files.foldr (fun (_, messages) others => messages.length + others) 0

def finding (file : String) (message : LinterMessage) : Finding where
  severity := if message.kind == "ERROR" then .error else .warning
  text := message.text
  code := message.source
  file := file
  line := message.line
  column := message.column

/-- The findings that a report stands for, in the order of the files. -/
def findings (report : LinterReport) : List Finding :=
  report.files.flatMap fun (file, messages) => messages.map (finding file)

end LinterReport

structure Linter where
  isAvailable : World → Bool
  /-- Check a file or directory against a standard, given further options. -/
  lint : (standard : String) → (options : List (String × String)) → (target : Path) →
    Act LinterReport

end PluginAudit
