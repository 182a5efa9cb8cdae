import PluginAudit.Config

/-!
# Finding the configuration

The file is looked for in a directory and in those above it, up to the root of
a repository.
-/

namespace PluginAudit

namespace Config

/-- A directory and those above it, from the inside out; `room` bounds their
number. -/
def upward : (room : Nat) → Path → List Path
  | 0, _ => []
  | room + 1, directory =>
      directory ::
        match directory.parent? with
        | some parent => upward room parent
        | none => []

/-- A directory and those above it, from the inside out. -/
def ancestors (directory : Path) : List Path := upward (directory.text.length + 2) directory

/-- The first file in a list of directories. -/
def findIn (disk : Disk) : List Path → Option Path
  | [] => none
  | directory :: rest =>
      let file := directory.join fileName
      if disk.isFile file then some file
      -- the search does not leave a repository
      else if disk.pathExists (directory.join ".git") then none
      else findIn disk rest

def find? (disk : Disk) (directory : Path) : Option Path := findIn disk (ancestors directory)

/-- The file that was asked for, or else the one for a directory. -/
def resolve (disk : Disk) (wanted : Option Path) (directory : Path) :
    Except Error (Option Path) :=
  match wanted with
  | none => .ok (find? disk directory)
  | some path =>
      if disk.pathExists path then .ok (some path)
      else .error (invalid path ("config file not found: " ++ path.text))

end Config

end PluginAudit
