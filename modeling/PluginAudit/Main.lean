import PluginAudit.Program

/-!
# The command line

The outer layer of the program.  It reads the entries of the file tree that an
invocation looks at into a `Disk`, lets `Program.run` decide, and writes what
comes out of that.  Whatever an invocation changes on the site it changes back,
so nothing is written to the file tree.

Files are taken to be executable, since their modes cannot be seen from here.
-/

namespace PluginAudit.Outer

inductive Reach
  | entry
  | tree
deriving DecidableEq

/-- The location of an absolute path without links. -/
def locationOf (path : String) : Location := Disk.steps path

/-- What has been read of the file tree. -/
structure Survey where
  disk : Disk
  /-- The directories that have been read with all that is in them. -/
  complete : List Location := []

namespace Survey

def note (s : Survey) (location : Location) (entry : Entry) : Survey :=
  { s with disk := s.disk.make location entry }

/-- Read the entries at and below a location, and where links lead. -/
partial def read (reach : Reach) (s : Survey) (location : Location) : IO Survey := do
  let entry : IO.FS.DirEntry :=
    ⟨(Disk.absolutePath location.dropLast).text, location.getLast?.getD ""⟩
  match ← entry.path.symlinkMetadata.toBaseIO with
  | .error _ => return s
  | .ok metadata =>
      match metadata.type with
      | .file =>
          match ← (IO.FS.readBinFile entry.path).toBaseIO with
          | .ok content => return s.note location (.file content true)
          | .error _ => return s
      | .dir =>
          let s := s.note location .directory
          if reach == .entry || s.complete.contains location then return s
          let s := { s with complete := location :: s.complete }
          (← entry.path.readDir).foldlM
            (fun s inner => read reach s (location ++ [inner.fileName])) s
      | .symlink =>
          match ← (IO.FS.realPath entry.path).toBaseIO with
          | .ok target =>
              read reach (s.note location (.link target.toString)) (locationOf target.toString)
          | .error _ => return s.note location (.link "")
      | .other => return s

/-- Read what names lead to from a location. -/
def readAlong (reach : Reach) (s : Survey) (here : Location) : List String → IO Survey
  | [] => if here.isEmpty then return s else read reach s here
  | "." :: rest => readAlong reach s here rest
  | ".." :: rest => readAlong reach s here.dropLast rest
  | name :: rest => do
      let child := here ++ [name]
      let s ← read .entry s child
      match s.disk.entry? child with
      | some (.link target) => readAlong reach s (locationOf target) rest
      | some _ => readAlong reach s child rest
      | none => return s

def readPath (reach : Reach) (s : Survey) (path : Path) : IO Survey :=
  if path.text.isEmpty then return s
  else
    readAlong reach s (if path.isAbsolute then [] else s.disk.workingDirectory)
      (Disk.steps path.text)

end Survey

/-- The variables of the environment that the program looks at. -/
def readVariables : IO Variables := do
  let found ← Program.variableNames.mapM fun name => do
    return (← IO.getEnv name).map fun value => (name, value)
  return found.filterMap id

/-- The invocation with nothing read of the file tree yet. -/
def start (arguments : List String) : IO Invocation := do
  let here ← IO.currentDir
  let searched := (← IO.getEnv "PATH").getD ""
  return {
    words := Program.name :: arguments
    vars := ← readVariables
    disk :=
      let here := locationOf here.toString
      { Disk.empty.make here .directory with workingDirectory := here }
    searchPath := (searched.splitOn ":").filter (!·.isEmpty)
    terminal := ← (← IO.getStdout).isTty }

/-- The invocation with all that is needed of the file tree. -/
def invocation (arguments : List String) : IO Invocation := do
  let i ← start arguments
  let s ← (Program.configurationPaths i).foldlM (Survey.readPath .entry) ⟨i.disk, []⟩
  let i := { i with disk := s.disk }
  let s ← (Program.treePaths i).foldlM (Survey.readPath .tree) s
  return { i with disk := s.disk }

end PluginAudit.Outer

open PluginAudit in
def main (arguments : List String) : IO UInt32 := do
  let output := Program.run (← Outer.invocation arguments)
  IO.print output.text
  IO.eprint output.complaints
  return output.status.code.toUInt32
