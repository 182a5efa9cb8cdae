import PluginAudit.Findings
import PluginAudit.Report.Style

/-!
# Findings as text

A block for each file that has findings, one row for each finding, and a last
line with the numbers of errors and warnings.

    FILE: readme.txt
    0:0 ERROR no_license Your plugin has no license declared. ...

    1 error, 0 warnings
-/

namespace PluginAudit

structure Row where
  line : Nat
  column : Nat
  severity : Severity
  message : Message
deriving DecidableEq

namespace Row

/-- Whether a row may stand before another: its place is not behind. -/
def notBehind (a b : Row) : Bool :=
  a.line < b.line || (a.line == b.line && a.column ≤ b.column)

def segments (r : Row) : List Segment :=
  let kind : Segment :=
    match r.severity with
    | .error => .styled .error "ERROR"
    | .warning => .styled .warning "WARNING"
  [.styled .place s!"{r.line}:{r.column}", .plain " ", kind, .plain " ",
    .styled .code r.message.code, .plain s!" {r.message.text}\n"] ++
    match r.message.link with
    | some link => [.plain s!"    {link}\n"]
    | none => []

end Row

def counted (count : Nat) (noun : String) : String :=
  if count == 1 then s!"{count} {noun}" else s!"{count} {noun}s"

namespace Findings

/-- The rows of a file, errors before warnings at one place. -/
def rowsOf (f : Findings) (file : String) : List Row :=
  let rows (severity : Severity) (messages : Messages) : List Row :=
    (messages.rows file).map fun (line, column, message) => ⟨line, column, severity, message⟩
  (rows .error f.errors ++ rows .warning f.warnings).mergeSort Row.notBehind

/-- The files that have findings, in ascending order. -/
def files (f : Findings) : List String :=
  (Assoc.keys f.errors ++ Assoc.keys f.warnings).foldl
    (fun found file => SortedList.insert textLess file found) []

def block (f : Findings) (file : String) : List Segment :=
  [.plain "FILE: ", .styled .path (file ++ "\n")] ++ (f.rowsOf file).flatMap Row.segments ++
    [.plain "\n"]

def segments (f : Findings) : List Segment :=
  if f.isEmpty then
    [.styled .pass "Success", .plain ": Checks complete. No errors found.\n"]
  else
    f.files.flatMap f.block ++
      [.plain (counted f.errorCount "error" ++ ", " ++ counted f.warningCount "warning" ++ "\n")]

def toText (color : Bool) (f : Findings) : String := renderSegments color f.segments

end Findings

end PluginAudit
