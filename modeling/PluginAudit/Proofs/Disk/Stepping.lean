import Mathlib.Logic.Relation
import PluginAudit.Proofs.Disk.Following
import PluginAudit.Proofs.Disk.Walk

/-!
# A walker that goes step by step

A walker keeps the directories on its way and what is left to come to in each of them.  Nothing
bounds its steps but the tree: it follows every link that does not lead back to a directory on
its way.  It comes to an end all the same, and then it has found what the walk finds.
-/

namespace PluginAudit

open Relation

/-! ## What a walker meets -/

/-- Why a walker cannot give out an entry, with what it was doing then around it. -/
inductive WalkFault
  /-- A link leads back to a directory on the way. -/
  | loop (ancestor : Location) (child : Path)
  | file (fault : FileFault)
  | atPath (path : Path) (fault : WalkFault)
  | atDepth (depth : Nat) (fault : WalkFault)
  | atLine (line : Nat) (fault : WalkFault)

namespace WalkFault

def isLoop : WalkFault → Bool
  | loop _ _ => true
  | file _ => false
  | atPath _ fault | atDepth _ fault | atLine _ fault => fault.isLoop

/-- A fault counts once, as a loop or as an error. -/
def count (fault : WalkFault) : Walked := if fault.isLoop then { loops := 1 } else { errors := 1 }

end WalkFault

/-- What there is under a name, links followed. -/
inductive Met
  | nothing
  | fault (fault : WalkFault)
  | file (size : Nat)
  | directory (location : Location)

namespace Disk

/-- What a walker with directories on its way meets at an entry.  Only links are tested for
leading back. -/
def meet (d : Disk) (way : List Location) (location : Location) (path : Path) : Met :=
  match d.entry? location with
  | none => .nothing
  | some (.file content _) => .file content.size
  | some .directory => .directory location
  | some (.link _) =>
      match d.locate path with
      | .error fault => .fault (.atPath path (.file fault))
      | .ok target =>
          match d.entry? target with
          | some (.file content _) => .file content.size
          | some .directory =>
              if way.contains target then .fault (.atDepth way.length (.loop target path)) else .directory target
          | _ => .fault (.atPath path (.file .missing))

/-- A directory on the way of a walker and the names in it that are left to come to. -/
structure Stop where
  location : Location
  path : Path
  left : List String

structure Walker where
  /-- The directories on the way, the innermost first. -/
  way : List Stop
  found : Walked

namespace Walker

/-- A walker before its first step. -/
def ofRoot (d : Disk) (root : Path) : Walker :=
  match d.locate root with
  | .error _ => ⟨[], { errors := 1 }⟩
  | .ok location =>
      match d.entry? location with
      | some (.file content _) => ⟨[], { files := [⟨root, content.size⟩] }⟩
      | some .directory => ⟨[⟨location, root, d.childNames location⟩], {}⟩
      | _ => ⟨[], { errors := 1 }⟩

/-- One step: to come to the next name in the innermost directory, or to leave it. -/
def step (d : Disk) (options : WalkOptions) : Walker → Option Walker
  | ⟨[], _⟩ => none
  | ⟨⟨_, _, []⟩ :: above, found⟩ => some ⟨above, found⟩
  | ⟨⟨here, path, name :: left⟩ :: above, found⟩ =>
      if options.reaches (above.length + 1) then
        let way := ⟨here, path, left⟩ :: above
        match d.meet (way.map Stop.location) (here ++ [name]) (path.join name) with
        | .nothing => some ⟨way, found⟩
        | .fault fault => some ⟨way, found ++ fault.count⟩
        | .file size => some ⟨way, found ++ { files := [⟨path.join name, size⟩] }⟩
        | .directory location =>
            let found := found ++ { directories := [path.join name] }
            if options.ignores name then some ⟨way, found⟩
            else some ⟨⟨location, path.join name, d.childNames location⟩ :: way, found⟩
      else some ⟨above, found⟩

/-- A walker comes to another after some steps. -/
abbrev Leads (d : Disk) (options : WalkOptions) : Walker → Walker → Prop :=
  ReflTransGen fun before after => before.step d options = some after

end Walker

/-! ## Rules of a walk -/

/-- What is found under names of the innermost directory on a way.  A name is passed over where there
is nothing, and no name is come to beyond the depth. -/
inductive Walks (d : Disk) (options : WalkOptions) : List Location → Path → List String → Walked → Prop
  | done {way path} : Walks d options way path [] {}
  | beyond {way path name names} (tooDeep : options.reaches way.length = false) :
      Walks d options way path (name :: names) {}
  | nothing {here above path name names later} (reaches : options.reaches (here :: above).length)
      (met : d.meet (here :: above) (here ++ [name]) (path.join name) = .nothing)
      (others : Walks d options (here :: above) path names later) :
      Walks d options (here :: above) path (name :: names) later
  | fault {here above path name names later fault} (reaches : options.reaches (here :: above).length)
      (met : d.meet (here :: above) (here ++ [name]) (path.join name) = .fault fault)
      (others : Walks d options (here :: above) path names later) :
      Walks d options (here :: above) path (name :: names) (fault.count ++ later)
  | file {here above path name names later size} (reaches : options.reaches (here :: above).length)
      (met : d.meet (here :: above) (here ++ [name]) (path.join name) = .file size)
      (others : Walks d options (here :: above) path names later) :
      Walks d options (here :: above) path (name :: names) ({ files := [⟨path.join name, size⟩] } ++ later)
  | ignored {here above path name names later location} (reaches : options.reaches (here :: above).length)
      (met : d.meet (here :: above) (here ++ [name]) (path.join name) = .directory location)
      (isIgnored : options.ignores name)
      (others : Walks d options (here :: above) path names later) :
      Walks d options (here :: above) path (name :: names) ({ directories := [path.join name] } ++ later)
  | entered {here above path name names inside later location} (reaches : options.reaches (here :: above).length)
      (met : d.meet (here :: above) (here ++ [name]) (path.join name) = .directory location)
      (kept : options.ignores name = false)
      (below : Walks d options (location :: here :: above) (path.join name) (d.childNames location) inside)
      (others : Walks d options (here :: above) path names later) :
      Walks d options (here :: above) path (name :: names) ({ directories := [path.join name] } ++ inside ++ later)

variable {d : Disk} {options : WalkOptions} {here : Location} {way above unvisited : List Location}
  {path root : Path} {depth : Nat} {names : List String} {found : Walked}

/-! ### Directories that are not on the way -/

/-- The directories that are not on the way, each once. -/
structure Unvisited (d : Disk) (way unvisited : List Location) : Prop where
  once : unvisited.Nodup
  mem_iff : ∀ location, location ∈ unvisited ↔ d.entry? location = some .directory ∧ location ∉ way

/-- A directory is unvisited or on the way. -/
theorem Unvisited.mem_way (isUnvisited : d.Unvisited way unvisited) {location : Location}
    (isDirectory : d.entry? location = some .directory) (visited : location ∉ unvisited) : location ∈ way := by
  by_contra notOnWay
  exact visited ((isUnvisited.mem_iff location).mpr ⟨isDirectory, notOnWay⟩)

theorem Unvisited.erase (isUnvisited : d.Unvisited way unvisited) (location : Location) :
    d.Unvisited (location :: way) (unvisited.erase location) where
  once := isUnvisited.once.erase location
  mem_iff other := by
    rw [isUnvisited.once.mem_erase_iff, isUnvisited.mem_iff, List.mem_cons]
    tauto

theorem Unvisited.cons (isUnvisited : d.Unvisited way unvisited) {location : Location}
    (visited : location ∉ unvisited) : d.Unvisited (location :: way) unvisited where
  once := isUnvisited.once
  mem_iff other := by
    rw [isUnvisited.mem_iff, List.mem_cons, not_or]
    constructor
    · intro ⟨isDirectory, notOnWay⟩
      refine ⟨isDirectory, ?_, notOnWay⟩
      rintro rfl
      exact notOnWay (isUnvisited.mem_way isDirectory visited)
    · exact fun ⟨isDirectory, _, notOnWay⟩ => ⟨isDirectory, notOnWay⟩

/-! ### What is met at each kind of entry -/

section

variable {location target : Location} {content : ByteArray} {executable : Bool} {text : String}

theorem meet_absent (absent : d.entry? location = none) : d.meet way location path = .nothing := by
  simp only [meet, absent]

theorem meet_file (isFile : d.entry? location = some (.file content executable)) :
    d.meet way location path = .file content.size := by
  simp only [meet, isFile]

theorem meet_directory (isDirectory : d.entry? location = some .directory) :
    d.meet way location path = .directory location := by
  simp only [meet, isDirectory]

theorem meet_unresolved {fault : FileFault} (isLink : d.entry? location = some (.link text))
    (located : d.locate path = .error fault) : d.meet way location path = .fault (.atPath path (.file fault)) := by
  simp only [meet, isLink, located]

theorem meet_linkedFile (isLink : d.entry? location = some (.link text)) (located : d.locate path = .ok target)
    (isFile : d.entry? target = some (.file content executable)) : d.meet way location path = .file content.size := by
  simp only [meet, isLink, located, isFile]

theorem meet_linkedDirectory (isLink : d.entry? location = some (.link text)) (located : d.locate path = .ok target)
    (isDirectory : d.entry? target = some .directory) (notOnWay : target ∉ way) :
    d.meet way location path = .directory target := by
  simp only [meet, isLink, located, isDirectory, List.contains_iff_mem, if_neg notOnWay]

theorem meet_loop (isLink : d.entry? location = some (.link text)) (located : d.locate path = .ok target)
    (isDirectory : d.entry? target = some .directory) (onWay : target ∈ way) :
    d.meet way location path = .fault (.atDepth way.length (.loop target path)) := by
  simp only [meet, isLink, located, isDirectory, List.contains_iff_mem, if_pos onWay]

end

/-- The walk follows the rules.  What bounds its recursion makes no difference. -/
theorem walks_walkNames (tree : d.IsTree) (options : WalkOptions) (isUnvisited : d.Unvisited (here :: above) unvisited)
    (level : depth = above.length) (path : Path) (names : List String) :
    d.Walks options (here :: above) path names (d.walkNames options d.height unvisited here path depth names) := by
  fun_induction walkNames d options d.height unvisited here path depth names generalizing above
  case case1 => exact .done
  case case2 tooDeep _ => exact .beyond (by simpa [level] using tooDeep)
  case case3 reaches absent others =>
    exact .nothing (by simpa [level] using reaches) (meet_absent absent) (others isUnvisited level)
  case case4 reaches _ _ isFile others =>
    exact .file (by simpa [level] using reaches) (meet_file isFile) (others isUnvisited level)
  case case5 reaches isDirectory isIgnored others =>
    exact .ignored (by simpa [level] using reaches) (meet_directory isDirectory) isIgnored (others isUnvisited level)
  case case6 reaches isDirectory kept _ others inside =>
    exact .entered (by simpa [level] using reaches) (meet_directory isDirectory) (by simpa using kept)
      (inside (isUnvisited.erase _) (by simp [level])) (others isUnvisited level)
  case case7 reaches isDirectory kept visited _ others inside =>
    exact .entered (by simpa [level] using reaches) (meet_directory isDirectory) (by simpa using kept)
      (inside (isUnvisited.cons visited) (by simp [level])) (others isUnvisited level)
  -- every directory is high enough to be entered
  case case8 isDirectory _ _ tooHigh _ =>
    exact absurd (length_le_height (by simp [isDirectory])) tooHigh
  case case9 reaches _ isLink _ located others =>
    exact .fault (by simpa [level] using reaches) (meet_unresolved isLink located) (others isUnvisited level)
  case case10 reaches _ isLink _ located _ _ isFile others =>
    exact .file (by simpa [level] using reaches) (meet_linkedFile isLink located isFile) (others isUnvisited level)
  case case11 reaches _ isLink _ located isDirectory new isIgnored others =>
    have notOnWay := ((isUnvisited.mem_iff _).mp new).2
    exact .ignored (by simpa [level] using reaches) (meet_linkedDirectory isLink located isDirectory notOnWay) isIgnored
      (others isUnvisited level)
  case case12 reaches _ isLink _ located isDirectory new kept others inside =>
    have notOnWay := ((isUnvisited.mem_iff _).mp new).2
    exact .entered (by simpa [level] using reaches) (meet_linkedDirectory isLink located isDirectory notOnWay)
      (by simpa using kept) (inside (isUnvisited.erase _) (by simp [level])) (others isUnvisited level)
  case case13 reaches _ isLink _ located isDirectory visited others =>
    have onWay := isUnvisited.mem_way isDirectory visited
    exact .fault (by simpa [level] using reaches) (meet_loop isLink located isDirectory onWay)
      (others isUnvisited level)
  -- and no path leads to a link or to nothing
  case case14 located notFile notDirectory _ =>
    obtain ⟨entry, found, notLink⟩ := settled_of_locate tree located
    cases entry with
    | file content executable => exact absurd found (notFile content executable)
    | directory => exact absurd found notDirectory
    | link text => cases notLink

/-! ## Steps -/

/-- What is found by the rules is found step by step, and then the directory is left. -/
theorem Walks.leads (walks : d.Walks options way path names found) (stops : List Stop)
    (way_eq : way = here :: stops.map Stop.location) (before : Walked) :
    Walker.Leads d options ⟨⟨here, path, names⟩ :: stops, before⟩ ⟨stops, before ++ found⟩ := by
  induction walks generalizing here stops before with
  | done => exact .single (by simp [Walker.step])
  | beyond tooDeep =>
    subst way_eq
    exact .single (by simp_all [Walker.step])
  | nothing reaches met _ others =>
    obtain ⟨rfl, rfl⟩ := List.cons.inj way_eq
    refine .head ?_ (others stops rfl before)
    simp_all [Walker.step]
  | fault reaches met _ others | file reaches met _ others | ignored reaches met _ _ others =>
    obtain ⟨rfl, rfl⟩ := List.cons.inj way_eq
    rw [← Walked.append_assoc]
    refine .head ?_ (others stops rfl _)
    simp_all [Walker.step]
  | @entered _ _ path name names _ _ location reaches met kept _ _ below others =>
    -- the directory is entered, walked and left, and then the other names follow
    obtain ⟨rfl, rfl⟩ := List.cons.inj way_eq
    rw [← Walked.append_assoc, ← Walked.append_assoc]
    refine .head ?_ ((below (⟨_, path, names⟩ :: stops) rfl _).trans (others stops rfl _))
    simp_all [Walker.step]

/-- A tree with no entry for its root, which is a directory all the same. -/
structure IsRooted (d : Disk) : Prop extends d.IsTree where
  belowRoot : ∀ entry ∈ d.entries, entry.1 ≠ []

instance (d : Disk) : Decidable d.IsRooted :=
  decidable_of_iff (d.IsTree ∧ ∀ entry ∈ d.entries, entry.1 ≠ [])
    ⟨fun ⟨tree, belowRoot⟩ => ⟨tree, belowRoot⟩, fun rooted => ⟨rooted.toIsTree, rooted.belowRoot⟩⟩

namespace IsRooted

theorem mem_directories (rooted : d.IsRooted) (location : Location) :
    location ∈ d.directories ↔ d.entry? location = some .directory := by
  by_cases isRoot : location = []
  · subst isRoot
    simp [directories, entry?]
  · have listed : Assoc.get? location d.entries = some .directory ↔ (location, .directory) ∈ d.entries :=
      rooted.ascending.get?_eq_some .location
    simp [directories, entry?, isRoot, listed]

theorem nodup_directories (rooted : d.IsRooted) : d.directories.Nodup := by
  apply List.nodup_cons.mpr
  constructor
  · intro member
    simp at member
    exact rooted.belowRoot _ member rfl
  · have distinct := List.pairwise_map.mp (rooted.ascending.nodup_keys .location)
    apply List.Pairwise.filterMap _ _ distinct
    intro first second different location here other there same
    simp only [Option.ite_none_right_eq_some, Option.some.injEq] at here there
    exact different (here.2.trans (same.trans there.2.symm))

/-- Before a walk, all directories but its root are unvisited. -/
theorem unvisited_root (rooted : d.IsRooted) (location : Location) :
    d.Unvisited [location] (d.directories.erase location) where
  once := rooted.nodup_directories.erase location
  mem_iff other := by
    rw [rooted.nodup_directories.mem_erase_iff, rooted.mem_directories, List.mem_singleton, and_comm]

end IsRooted

/-- A walker ends, and what it has found then is what the walk reports in order. -/
theorem exists_leads_end (rooted : d.IsRooted) (options : WalkOptions) (root : Path) :
    ∃ found, Walker.Leads d options (.ofRoot d root) ⟨[], found⟩ ∧ d.walk options root = found.sorted := by
  unfold Walker.ofRoot walk
  cases located : d.locate root with
  | error fault => exact ⟨_, .refl, by simp [Walked.sorted]⟩
  | ok location =>
    obtain ⟨entry, found, notLink⟩ := settled_of_locate rooted.toIsTree located
    cases entry with
    | link target => cases notLink
    | file content executable => exact ⟨_, by simp only [found]; exact .refl, by simp [found, Walked.sorted]⟩
    | directory =>
      have isUnvisited := rooted.unvisited_root location
      have walks := walks_walkNames rooted.toIsTree options isUnvisited rfl root (d.childNames location)
      exact ⟨_, by simpa only [found] using walks.leads [] rfl {}, by simp [found, Walked.nil_append]⟩

/-- As each step is the only one possible, no walker goes on without end that leads to one that
cannot go on. -/
theorem Walker.Leads.not_endless {before after : Walker} (leads : Leads d options before after)
    (ended : after.step d options = none) (trace : Nat → Walker) (starts : trace 0 = before) :
    ∃ n, (trace n).step d options ≠ some (trace (n + 1)) := by
  induction leads using ReflTransGen.head_induction_on generalizing trace with
  | refl => exact ⟨0, by simp [starts, ended]⟩
  | head first _ inductionHypothesis =>
    by_cases follows : (trace 0).step d options = some (trace 1)
    · rw [starts, first] at follows
      obtain ⟨n, stops⟩ := inductionHypothesis (fun n => trace (n + 1)) (Option.some.inj follows).symm
      exact ⟨n + 1, stops⟩
    · exact ⟨0, follows⟩

end Disk

end PluginAudit
