import PluginAudit.Linter
import PluginAudit.Linter.Script

/-!
# The external linter

The program `phpcs`, given by its path or looked up by its name.  Up to the
status two it has given a report; any other end is a failure.
-/

namespace PluginAudit

open PluginAudit.Text

structure Phpcs where
  /-- Its path, or a name to look up. -/
  executable : Path := ⟨"phpcs"⟩
deriving DecidableEq, Inhabited

namespace Phpcs

/-- The program to run, if there is one. -/
def program? (linter : Phpcs) (world : World) : Option Path :=
  if linter.executable.components.length > 1 then
    if world.disk.isFile linter.executable then some linter.executable else none
  else
    (world.searchPath.map fun directory => (Path.mk directory).join linter.executable.text).find?
      world.disk.isFile

def commandLine (standard : String) (options : List (String × String)) (target : Path) :
    List String :=
  ["--report=json", "--standard=" ++ standard] ++
    (options.map fun (key, value) => "--" ++ key ++ "=" ++ value) ++ [target.text]

inductive StartFault
  | permission
  | format
  | interpreter

def StartFault.message : StartFault → String
  | .permission => "Permission denied (os error 13)"
  | .format => "Exec format error (os error 8)"
  | .interpreter => "No such file or directory (os error 2)"

def execute (disk : Disk) (program : Path) (arguments : List String) :
    Except StartFault Script.Outcome :=
  match disk.resolve? program with
  | some (.file content executable) =>
      if !executable then .error .permission
      else
        let script := Utf8.textOf content
        match Script.interpreter? script with
        | none => .error .format
        | some interpreter =>
            if Script.isShell interpreter then .ok (Script.run disk program.text arguments script)
            else .error .interpreter
  | _ => .error .interpreter

/-- A status as it is shown; a program that was killed has none. -/
def shownStatus : Option Nat → String
  | some status => toString status
  | none => "-1"

/-- The greatest status with which a report is given. -/
def maximalStatus : Nat := 2

def lint (linter : Phpcs) (standard : String) (options : List (String × String))
    (target : Path) : Act LinterReport :=
  .inspect fun world =>
    match linter.program? world with
    | none => .error (.linter (linter.executable.text ++ " not found"))
    | some program =>
        match execute world.disk program (commandLine standard options target) with
        | .error fault =>
            .error (.linter ("failed to spawn " ++ program.text ++ ": " ++ fault.message))
        | .ok ran =>
            if ran.status.any (· ≤ maximalStatus) then
              LinterReport.parse (String.ofList (trim ran.output))
            else
              .error (.linter ("phpcs exited with " ++ shownStatus ran.status ++ ": " ++
                String.ofList (trim ran.complaints)))

def toLinter (linter : Phpcs) : Linter where
  isAvailable world := (linter.program? world).isSome
  lint := linter.lint

end Phpcs

end PluginAudit
