import PluginAudit.Path
import PluginAudit.SortedList
import PluginAudit.Text.Utf8

/-!
# Files and directories

A file tree with symbolic links as a pure value: every entry is stored under
its location, the list of names that leads to it from the root without passing
a link.  Paths are followed from the working directory, or from the root if
they are absolute, expanding at most forty links on the way.
-/

namespace PluginAudit

open PluginAudit.Text

/-- The names that lead from the root to an entry. -/
abbrev Location := List String

inductive Entry
  /-- A regular file and whether it may be executed. -/
  | file (content : ByteArray) (executable : Bool)
  | directory
  /-- A symbolic link and the text it points to. -/
  | link (target : String)

instance : DecidableEq Entry
  | .file content executable, .file content' executable' =>
      haveI := ByteArray.instDecidableEq content content'
      decidable_of_iff (content = content' ∧ executable = executable')
        (iff_of_eq (Entry.file.injEq ..)).symm
  | .directory, .directory => isTrue rfl
  | .link target, .link target' =>
      decidable_of_iff (target = target') (iff_of_eq (Entry.link.injEq ..)).symm
  | .file .., .directory | .file .., .link _ | .directory, .file .. | .directory, .link _
  | .link _, .file .. | .link _, .directory => isFalse nofun

inductive FileFault
  | missing
  /-- A step of the path leads through something that is no directory. -/
  | notDirectory
  | isDirectory
  | tooManyLinks
  | notText
  | denied
  | other (description : String)
deriving DecidableEq

def FileFault.message : FileFault → String
  | .missing => "No such file or directory (os error 2)"
  | .notDirectory => "Not a directory (os error 20)"
  | .isDirectory => "Is a directory (os error 21)"
  | .tooManyLinks => "Too many levels of symbolic links (os error 40)"
  | .notText => "stream did not contain valid UTF-8"
  | .denied => "Permission denied (os error 13)"
  | .other description => description

/-- A file tree and the directory that relative paths start from. -/
structure Disk where
  /-- The entries below the root by location, in ascending order. -/
  entries : List (Location × Entry)
  workingDirectory : Location
  /-- The directories in which no entry can be made or removed. -/
  sealedDirectories : List Location := []
deriving DecidableEq

namespace Disk

def empty : Disk := { entries := [], workingDirectory := [] }

instance : Inhabited Disk := ⟨empty⟩

/-- The order of locations: by their names, from the root on. -/
def locationLess (a b : Location) : Bool := decide (a < b)

/-- The entry at a location; the root is a directory. -/
def entry? (d : Disk) (location : Location) : Option Entry :=
  if location.isEmpty then some .directory else Assoc.get? location d.entries

def put (d : Disk) (location : Location) (entry : Entry) : Disk :=
  { d with entries := Assoc.put locationLess location entry d.entries }

def erase (d : Disk) (location : Location) : Disk :=
  { d with entries := Assoc.erase location d.entries }

/-- The names directly below a location, in ascending order. -/
def childNames (d : Disk) (location : Location) : List String :=
  d.entries.filterMap fun (key, _) =>
    if key.dropLast == location then key.getLast? else none

/-! ## Following paths -/

/-- The names a path text asks to follow in turn. -/
def steps (text : String) : List String :=
  let pieces := splitOn '/' text.toList
  let names := (pieces.filter fun piece => !piece.isEmpty).map String.ofList
  -- a slash at the end asks for a directory
  if pieces.getLast? == some [] && pieces.length > 1 then names ++ ["."] else names

/-- Where a path leads: to an entry, or to a free place in a directory. -/
structure Place where
  location : Location
  present : Bool

/-- Follow names from a location, expanding at most `links` links on the way. -/
def followFrom (d : Disk) (follow : Bool) (links : Nat) (here : Location) :
    List String → Except FileFault Place
  | [] => .ok ⟨here, true⟩
  | step :: rest =>
      match d.entry? here with
      | some .directory =>
          if step == "." then followFrom d follow links here rest
          else if step == ".." then followFrom d follow links here.dropLast rest
          else
            let child := here ++ [step]
            match d.entry? child with
            | none => if rest.isEmpty then .ok ⟨child, false⟩ else .error .missing
            | some (.link target) =>
                -- a link at the end is the entry itself unless it is to be followed
                if rest.isEmpty && !follow then .ok ⟨child, true⟩
                else
                  match links with
                  | 0 => .error .tooManyLinks
                  | links' + 1 =>
                      -- a relative target starts where the link stands
                      let base := if (Path.mk target).isAbsolute then [] else here
                      followFrom d follow links' base (steps target ++ rest)
            | some _ => followFrom d follow links child rest
      | _ => .error .notDirectory
termination_by todo => (links, todo.length)

def maximalLinks : Nat := 40

def place (d : Disk) (follow : Bool) (p : Path) : Except FileFault Place :=
  if p.text.isEmpty then .error .missing
  else
    d.followFrom follow maximalLinks (if p.isAbsolute then [] else d.workingDirectory)
      (steps p.text)

/-- The location of the entry a path leads to. -/
def locate (d : Disk) (p : Path) : Except FileFault Location :=
  match d.place true p with
  | .error fault => .error fault
  | .ok found => if found.present then .ok found.location else .error .missing

def resolve? (d : Disk) (p : Path) : Option Entry :=
  match d.locate p with
  | .ok location => d.entry? location
  | .error _ => none

def absolutePath (location : Location) : Path := ⟨"/" ++ "/".intercalate location⟩

/-! ## Questions -/

def pathExists (d : Disk) (p : Path) : Bool := (d.resolve? p).isSome

/-- Whether a path leads to a regular file. -/
def isFile (d : Disk) (p : Path) : Bool :=
  match d.resolve? p with
  | some (.file _ _) => true
  | _ => false

def isDirectory (d : Disk) (p : Path) : Bool := d.resolve? p == some .directory

/-- The bytes of the file a path leads to. -/
def read (d : Disk) (p : Path) : Except FileFault ByteArray :=
  match d.locate p with
  | .error fault => .error fault
  | .ok location =>
      match d.entry? location with
      | some (.file content _) => .ok content
      | some .directory => .error .isDirectory
      | _ => .error .missing

/-- The text of the file a path leads to, ill-formed bytes replaced. -/
def readLossy (d : Disk) (p : Path) : Except FileFault String :=
  (d.read p).map Utf8.textOf

/-- The text of the file a path leads to, if it is text. -/
def readText (d : Disk) (p : Path) : Except FileFault String :=
  match d.read p with
  | .error fault => .error fault
  | .ok bytes =>
      match String.fromUTF8? bytes with
      | some text => .ok text
      | none => .error .notText

/-- The names in the directory a path leads to. -/
def list (d : Disk) (p : Path) : Except FileFault (List String) :=
  match d.locate p with
  | .error fault => .error fault
  | .ok location =>
      if d.entry? location == some .directory then .ok (d.childNames location)
      else .error .notDirectory

/-! ## Changes -/

/-- Whether the place named by a path may be executed afterwards: a file that
is overwritten keeps its mode. -/
def keptMode (d : Disk) (location : Location) : Bool :=
  match d.entry? location with
  | some (.file _ executable) => executable
  | _ => false

/-- Whether the directory that holds a location may not be changed. -/
def isSealed (d : Disk) (location : Location) : Bool :=
  d.sealedDirectories.contains location.dropLast

/-- Write a file, in place of the one that was there. -/
def write (d : Disk) (p : Path) (content : ByteArray) : Except FileFault Disk :=
  match d.place true p with
  | .error fault => .error fault
  | .ok found =>
      match d.entry? found.location with
      | some .directory => .error .isDirectory
      | none =>
          if d.isSealed found.location then .error .denied
          else .ok (d.put found.location (.file content false))
      | some _ => .ok (d.put found.location (.file content (d.keptMode found.location)))

def remove (d : Disk) (p : Path) : Except FileFault Disk :=
  match d.place false p with
  | .error fault => .error fault
  | .ok found =>
      match d.entry? found.location with
      | none => .error .missing
      | some .directory => .error .isDirectory
      | some _ =>
          if d.isSealed found.location then .error .denied
          else .ok (d.erase found.location)

/-- Make the directories that are missing on the way along `names`. -/
def makeDirectories (d : Disk) (here : Location) : List String → Disk
  | [] => d
  | name :: rest =>
      let child := here ++ [name]
      match d.entry? child with
      | none => makeDirectories (d.put child .directory) child rest
      | some (.link target) =>
          match d.followFrom true maximalLinks here (steps target) with
          | .ok found => makeDirectories d found.location rest
          | .error _ => d
      | some _ => makeDirectories d child rest

/-- Make an entry, with the directories that are missing on the way. -/
def make (d : Disk) (location : Location) (entry : Entry) : Disk :=
  match location.getLast? with
  | none => d
  | some name =>
      let made := d.makeDirectories [] location.dropLast
      match made.followFrom true maximalLinks [] location.dropLast with
      | .error _ => made
      | .ok parent =>
          let place := parent.location ++ [name]
          -- what is in the place goes, but a directory is not made twice
          if entry == .directory && (made.entry? place).isSome then made else made.put place entry

end Disk

end PluginAudit
