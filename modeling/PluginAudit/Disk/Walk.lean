import PluginAudit.Disk

/-!
# Walking a directory

All files and directories below a root, links followed.  Directories with an
ignored name are reported and not entered.  A link to a directory that is
already on the way from the root counts as a loop, a link that leads nowhere as
an error.

The walk ends on every tree: entering a directory through a link uses up one of
the directories not on the way yet, and entering one directly leads deeper into
the tree.
-/

namespace PluginAudit

structure WalkOptions where
  /-- The greatest depth below the root, if there is one. -/
  maximalDepth : Option Nat := some 100
  ignoredDirectories : List String := [".git", "vendor", "node_modules"]
deriving Inhabited

structure WalkedFile where
  /-- The path from the root of the walk on. -/
  path : Path
  size : Nat
deriving DecidableEq

/-- The largest size at which the content of a file is looked at. -/
def maximalSourceSize : Nat := 10 * 1024 * 1024

def WalkedFile.isReadable (f : WalkedFile) : Bool := f.size ≤ maximalSourceSize

structure Walked where
  files : List WalkedFile := []
  /-- The directories below the root, those not entered included. -/
  directories : List Path := []
  /-- The number of links back to a directory on the way. -/
  loops : Nat := 0
  /-- The number of links and roots that lead nowhere. -/
  errors : Nat := 0
deriving DecidableEq, Inhabited

namespace Walked

def append (a b : Walked) : Walked :=
  ⟨a.files ++ b.files, a.directories ++ b.directories, a.loops + b.loops, a.errors + b.errors⟩

instance : Append Walked := ⟨append⟩

def sorted (w : Walked) : Walked :=
  { w with
    files := w.files.mergeSort fun a b => !b.path.less a.path
    directories := w.directories.mergeSort fun a b => !b.less a }

/-- The files with an extension, up to the case of ASCII letters. -/
def withExtension (w : Walked) (ext : String) : List WalkedFile :=
  w.files.filter fun f => f.path.hasExtension ext

end Walked

namespace WalkOptions

/-- Whether entries at a depth are still visited. -/
def reaches (options : WalkOptions) (depth : Nat) : Bool :=
  match options.maximalDepth with
  | some limit => depth ≤ limit
  | none => true

/-- Whether a directory with this name is left unentered. -/
def ignores (options : WalkOptions) (name : String) : Bool :=
  options.ignoredDirectories.contains name

end WalkOptions

namespace Disk

/-- The locations of all directories, the root included. -/
def directories (d : Disk) : List Location :=
  [] :: d.entries.filterMap fun (location, entry) =>
    if entry == .directory then some location else none

def height (d : Disk) : Nat := d.entries.foldr (fun e n => max e.1.length n) 0

/-- Walk the entries `names` of the directory at `here`, which the walk reached
as `path`.  `unvisited` holds the directories that are not on the way. -/
def walkNames (d : Disk) (options : WalkOptions) (height : Nat) (unvisited : List Location)
    (here : Location) (path : Path) (depth : Nat) : List String → Walked
  | [] => {}
  | name :: rest =>
      let later := walkNames d options height unvisited here path depth rest
      let child := here ++ [name]
      let childPath := path.join name
      -- names below here are equally deep, so none of them is visited
      if !options.reaches (depth + 1) then {}
      else
        match d.entry? child with
        | none => later
        | some (.file content _) => { files := [⟨childPath, content.size⟩] } ++ later
        | some .directory =>
            if options.ignores name then { directories := [childPath] } ++ later
            else if child ∈ unvisited then
              { directories := [childPath] } ++
                walkNames d options height (unvisited.erase child) child childPath (depth + 1)
                  (d.childNames child) ++ later
            -- on the way already: only links are tested for leading back
            else if child.length ≤ height then
              { directories := [childPath] } ++
                walkNames d options height unvisited child childPath (depth + 1)
                  (d.childNames child) ++ later
            else { directories := [childPath] } ++ later
        | some (.link _) =>
            -- the path is followed from its start, so all links on it count
            match d.locate childPath with
            | .error _ => { errors := 1 } ++ later
            | .ok location =>
                match d.entry? location with
                | some (.file content _) => { files := [⟨childPath, content.size⟩] } ++ later
                | some .directory =>
                    if location ∈ unvisited then
                      if options.ignores name then { directories := [childPath] } ++ later
                      else
                        { directories := [childPath] } ++
                          walkNames d options height (unvisited.erase location) location childPath
                            (depth + 1) (d.childNames location) ++ later
                    else { loops := 1 } ++ later
                | _ => { errors := 1 } ++ later
termination_by names => (unvisited.length, height - here.length, names.length)
decreasing_by
  · exact .right _ (.right _ (by simp))
  · rename_i h
    exact .left _ _ (by
      have := List.length_pos_of_mem h
      rw [List.length_erase_of_mem h]; omega)
  · rename_i h
    exact .right _ (.left _ _ (by
      simp only [child, List.length_append, List.length_singleton] at *
      omega))
  · rename_i h _
    exact .left _ _ (by
      have := List.length_pos_of_mem h
      rw [List.length_erase_of_mem h]; omega)

/-- Walk everything below a root, in the order of paths.  A root that is a file
is the only file of its walk. -/
def walk (d : Disk) (options : WalkOptions) (root : Path) : Walked :=
  match d.locate root with
  | .error _ => { errors := 1 }
  | .ok location =>
      match d.entry? location with
      | some (.file content _) => { files := [⟨root, content.size⟩] }
      | some .directory =>
          (d.walkNames options d.height (d.directories.erase location) location root 0
            (d.childNames location)).sorted
      | _ => { errors := 1 }

end Disk

end PluginAudit
