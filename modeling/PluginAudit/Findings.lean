import PluginAudit.Plugin.Context
import PluginAudit.SortedList

/-!
# Findings

What the checks of a run found, by file, line and column, errors and warnings
apart.  Files are named relative to the directory of the plugin.  Findings of
one place keep the order they were recorded in.
-/

namespace PluginAudit

open PluginAudit.Text

inductive Severity
  | error
  | warning
deriving DecidableEq, Inhabited

structure Message where
  text : String
  code : String
  link : Option String
deriving DecidableEq, Inhabited

structure Finding where
  severity : Severity
  text : String
  code : String := ""
  /-- The path of the file, empty if the finding concerns no file. -/
  file : String := ""
  /-- The line, zero if there is none. -/
  line : Nat := 0
  /-- The column, zero if there is none. -/
  column : Nat := 0
  link : Option String := none
deriving DecidableEq, Inhabited

namespace Finding

/-- What is recorded at the place of the finding. -/
def message (f : Finding) : Message := ⟨f.text, f.code, f.link⟩

end Finding

/-- The messages of a file, by line and column in ascending order. -/
abbrev FileMessages := List (Nat × List (Nat × List Message))

/-- Messages by file in ascending order. -/
abbrev Messages := List (String × FileMessages)

instance : DecidableEq FileMessages := inferInstance

instance : DecidableEq Messages := inferInstance

namespace Messages

/-- Record a message behind those recorded at its place. -/
def add (messages : Messages) (file : String) (line column : Nat) (message : Message) :
    Messages :=
  Assoc.update textLess file []
    (Assoc.update natLess line []
      (Assoc.update natLess column [] (· ++ [message]))) messages

/-- The messages of a file at a line and a column. -/
def at' (messages : Messages) (file : String) (line column : Nat) : List Message :=
  (((Assoc.get? file messages).bind (Assoc.get? line)).bind (Assoc.get? column)).getD []

/-- The messages of a file with their places, in the order of places. -/
def rows (messages : Messages) (file : String) : List (Nat × Nat × Message) :=
  ((Assoc.get? file messages).getD []).flatMap fun (line, columns) =>
    columns.flatMap fun (column, list) => list.map fun message => (line, column, message)

def total (messages : Messages) : Nat :=
  messages.foldr (fun (file, _) others => (messages.rows file).length + others) 0

end Messages

/-- The findings of a run about one plugin. -/
structure Findings where
  context : PluginContext
  errors : Messages := []
  warnings : Messages := []
  errorCount : Nat := 0
  warningCount : Nat := 0
deriving DecidableEq, Inhabited

namespace Findings

def none (context : PluginContext) : Findings := { context }

/-- A file relative to the directory of the plugin, with forward slashes. -/
def relativeFile (context : PluginContext) (file : String) : String :=
  if file.isEmpty then ""
  else
    let relative := ((Path.mk file).below? context.directory).getD ⟨file⟩
    String.ofList (relative.text.toList.map fun c => if c == '\\' then '/' else c)

def add (f : Findings) (finding : Finding) : Findings :=
  let file := relativeFile f.context finding.file
  match finding.severity with
  | .error =>
      { f with
        errors := f.errors.add file finding.line finding.column finding.message
        errorCount := f.errorCount + 1 }
  | .warning =>
      { f with
        warnings := f.warnings.add file finding.line finding.column finding.message
        warningCount := f.warningCount + 1 }

def addAll (f : Findings) (findings : List Finding) : Findings := findings.foldl add f

def isEmpty (f : Findings) : Bool := f.errorCount == 0 && f.warningCount == 0

/-- The findings without warnings, without errors, or without both. -/
def without (f : Findings) (warnings errors : Bool) : Findings :=
  let f := if warnings then { f with warnings := [], warningCount := 0 } else f
  if errors then { f with errors := [], errorCount := 0 } else f

end Findings

end PluginAudit
