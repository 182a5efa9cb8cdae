import Mathlib.Data.List.Infix
import PluginAudit.Proofs.Disk.Walk

/-!
# Walks by a walker with a filter

A walker asks a filter about the entries it comes to and gives out those that pass, and it enters
no directory that the filter turns away.  A walk collects the directories it reports in two ways,
those that are given out and those that the filter turned away and noted.  Together they are the
directories of the walk, each once.
-/

namespace PluginAudit

namespace Disk

variable {d : Disk} {options : WalkOptions} {here : Location} {root : Path} {name : String}
  {steps front : List String}

/-- What a walker does below a root: the entries it asks its filter about and those it gives out,
each by the names that lead to it from the root. -/
structure Tour where
  asked : List (List String)
  given : List (List String)
deriving DecidableEq

/-- The filter turns away a directory with an ignored name, if it is not the root. -/
def turnsAway (d : Disk) (options : WalkOptions) (here : Location) (root : Path) (steps : List String) : Bool :=
  d.entry? (here ++ steps) = some .directory ∧ 0 < steps.length ∧ (root.along steps).fileName?.any options.ignores

/-- There is an entry that is not too deep. -/
def Within (d : Disk) (options : WalkOptions) (here : Location) (steps : List String) : Prop :=
  (d.entry? (here ++ steps)).isSome ∧ options.reaches steps.length

instance : Decidable (d.Within options here steps) := inferInstanceAs (Decidable (_ ∧ _))

namespace Tour

variable {tour : Tour}

/-- The walker comes to each entry that is not too deep once, unless it is behind one that the
filter turned away.  Below the root it asks about all of them, and it gives out what is not
turned away itself. -/
structure Follows (tour : Tour) (d : Disk) (options : WalkOptions) (here : Location) (root : Path) : Prop where
  askedOnce : tour.asked.Nodup
  givenOnce : tour.given.Nodup
  mem_asked : ∀ steps, steps ≠ [] → (steps ∈ tour.asked ↔
    d.Within options here steps ∧ ∀ front ∈ steps.inits, front ≠ steps → d.turnsAway options here root front = false)
  mem_given : ∀ steps, steps ∈ tour.given ↔
    d.Within options here steps ∧ ∀ front ∈ steps.inits, d.turnsAway options here root front = false

/-- What is collected from a walker: all files it gives out, the directories below the root that
it gives out, and behind them those that the filter noted, sorted in the end. -/
def collect (tour : Tour) (d : Disk) (options : WalkOptions) (here : Location) (root : Path) : Walked :=
  Walked.sorted
    { files := d.filesAmong here root tour.given
      directories :=
        (tour.given.filter fun steps => d.entry? (here ++ steps) = some .directory ∧ 0 < steps.length).map root.along ++
          (tour.asked.filter (d.turnsAway options here root)).map root.along }

end Tour

/-! ## What the filter turns away -/

theorem turnsAway_nil : d.turnsAway options here root [] = false := by
  simp [turnsAway]

theorem turnsAway_concat (tree : d.IsTree) (isDirectory : d.entry? (here ++ (front ++ [name])) = some .directory) :
    d.turnsAway options here root (front ++ [name]) = options.ignores name := by
  have isName : ∀ other ∈ front ++ [name], IsName other := fun other isStep =>
    tree.isName (Option.isSome_of_eq_some isDirectory) other (List.mem_append_right here isStep)
  have components := Path.components_along isName root
  rw [List.map_append, ← List.append_assoc] at components
  have fileName := Path.fileName?_of_components components
  simp [turnsAway, isDirectory, fileName]

/-- An entry is come to where no directory before it is turned away. -/
theorem reached_iff (tree : d.IsTree) (root : Path) (given : steps ≠ []) :
    d.Reached options here 0 steps ↔ d.Within options here steps ∧
      ∀ front ∈ steps.inits, front ≠ steps → d.turnsAway options here root front = false := by
  constructor
  · intro reached
    refine ⟨⟨reached.present, by simpa using reached.reaches⟩, fun front isFront different => ?_⟩
    obtain ⟨back, rfl⟩ := (List.mem_inits front steps).mp isFront
    have some : back ≠ [] := fun none => different (by simp [none])
    have unpruned := reached.unpruned
    rw [List.dropLast_append_of_ne_nil some] at unpruned
    have present := reached.present
    rw [← List.append_assoc] at present
    have isDirectory := tree.isDirectory some present
    -- the root is never turned away, and a directory below it only for its own name
    cases front using List.reverseRecOn with
    | nil => exact turnsAway_nil
    | append_singleton before name =>
      rw [turnsAway_concat tree isDirectory]
      exact unpruned name (by simp)
  · intro ⟨⟨present, reaches⟩, unturned⟩
    refine ⟨given, present, by simpa using reaches, fun name member => ?_⟩
    obtain ⟨before, after, split⟩ := List.append_of_mem member
    obtain ⟨last, steps_eq⟩ : ∃ last, steps = before ++ [name] ++ (after ++ [last]) := by
      refine ⟨steps.getLast given, ?_⟩
      conv_lhs => rw [← List.dropLast_concat_getLast given, split]
      simp
    have isFront : before ++ [name] ∈ steps.inits := (List.mem_inits _ _).mpr ⟨_, steps_eq.symm⟩
    have shorter : before ++ [name] ≠ steps := by
      intro same
      rw [← same] at steps_eq
      simp at steps_eq
    rw [steps_eq, ← List.append_assoc] at present
    rw [← turnsAway_concat tree (tree.isDirectory (by simp) present)]
    exact unturned _ isFront shorter

namespace Tour

variable {tour : Tour}

theorem Follows.mem_asked_iff (follows : tour.Follows d options here root) (tree : d.IsTree) (given : steps ≠ []) :
    steps ∈ tour.asked ↔ d.Reached options here 0 steps :=
  (follows.mem_asked steps given).trans (reached_iff tree root given).symm

theorem Follows.mem_given_iff (follows : tour.Follows d options here root) (tree : d.IsTree) (given : steps ≠ []) :
    steps ∈ tour.given ↔ d.Reached options here 0 steps ∧ d.turnsAway options here root steps = false := by
  rw [follows.mem_given, reached_iff tree root given]
  constructor
  · intro ⟨within, unturned⟩
    refine ⟨⟨within, fun front isFront _ => unturned front isFront⟩, ?_⟩
    exact unturned steps ((List.mem_inits _ _).mpr (List.prefix_refl steps))
  · intro ⟨⟨within, unturned⟩, passes⟩
    refine ⟨within, fun front isFront => ?_⟩
    by_cases same : front = steps
    · rw [same, passes]
    · exact unturned front isFront same

/-- A directory that a walk comes to is given out or turned away, and none is both. -/
theorem Follows.reports_collect (follows : tour.Follows d options here root) (tree : d.IsTree)
    (isDirectory : d.entry? here = some .directory) :
    d.Reports options here root (tour.collect d options here root) := by
  rw [collect, ← List.map_append]
  apply reports_sorted tree follows.givenOnce
  · -- no directory comes both ways: what is given out was not turned away
    apply List.nodup_append.mpr
    refine ⟨follows.givenOnce.filter _, follows.askedOnce.filter _, fun steps given other turned same => ?_⟩
    subst same
    simp only [List.mem_filter, decide_eq_true_eq] at given turned
    obtain ⟨given, -, some⟩ := given
    have passes := ((follows.mem_given_iff tree (List.length_pos_iff.mp some)).mp given).2
    simp [passes] at turned
  · intro steps content executable isFile
    have given : steps ≠ [] := by
      intro none
      simp [none, isDirectory] at isFile
    have passes : d.turnsAway options here root steps = false := by simp [turnsAway, isFile]
    simp [follows.mem_given_iff tree given, passes]
  · intro steps
    by_cases none : steps = []
    · subst none
      have notReached : ¬ d.Reached options here 0 [] := fun reached => reached.given rfl
      simp [notReached, turnsAway_nil]
    · -- and each comes one of the ways, by what the filter says of it
      simp only [List.mem_append, List.mem_filter, follows.mem_given_iff tree none, follows.mem_asked_iff tree none]
      cases turned : d.turnsAway options here root steps with
      | true =>
        have there := (of_decide_eq_true turned).1
        simp [there]
      | false => simp [List.length_pos_iff, none]

/-- Below a file there is nothing to come to. -/
theorem Follows.collect_eq_of_file (follows : tour.Follows d options here root) (tree : d.IsTree)
    {content : ByteArray} {executable : Bool} (isFile : d.entry? here = some (.file content executable)) :
    tour.collect d options here root = { files := [⟨root, content.size⟩] } := by
  have nothing (steps : List String) (within : d.Within options here steps) : steps = [] := by
    by_contra some
    have isDirectory := tree.isDirectory some within.1
    simp [isFile] at isDirectory
  have given : tour.given = [[]] := by
    apply List.perm_singleton.mp
    apply (List.perm_ext_iff_of_nodup follows.givenOnce (List.nodup_singleton _)).mpr
    intro steps
    rw [follows.mem_given, List.mem_singleton]
    constructor
    · intro ⟨within, _⟩
      exact nothing steps within
    · intro none
      subst none
      refine ⟨⟨by simp [isFile], ?_⟩, by simp [turnsAway_nil]⟩
      cases limit : options.maximalDepth <;> simp [WalkOptions.reaches, limit]
  have asked : tour.asked.filter (d.turnsAway options here root) = [] := by
    apply List.filter_eq_nil_iff.mpr
    intro steps member turned
    by_cases none : steps = []
    · simp [none, turnsAway_nil] at turned
    · exact none (nothing steps ((follows.mem_asked steps none).mp member).1)
  simp [collect, given, asked, filesAmong, isFile, Walked.sorted, Path.along]

/-- The names that lead from a location to what is stored at or below it, and some others. -/
def namesBelow (d : Disk) (here : Location) : List (List String) :=
  ([] :: d.entries.map Prod.fst).map fun location => location.drop here.length

theorem mem_namesBelow (present : (d.entry? (here ++ steps)).isSome) : steps ∈ namesBelow d here := by
  apply List.mem_map.mpr
  by_cases none : here ++ steps = []
  · exact ⟨[], by simp, by simp [List.append_eq_nil_iff.mp none]⟩
  · obtain ⟨entry, found⟩ := Option.isSome_iff_exists.mp present
    exact ⟨here ++ steps, List.mem_cons_of_mem [] (List.mem_map_of_mem (mem_entries none found)), by simp⟩

/-- Whether a walker does as it should is decided by the entries of the tree. -/
theorem follows_iff :
    tour.Follows d options here root ↔ tour.asked.Nodup ∧ tour.given.Nodup ∧
      ∀ steps ∈ tour.asked ++ tour.given ++ namesBelow d here,
        (steps ≠ [] → (steps ∈ tour.asked ↔ d.Within options here steps ∧
          ∀ front ∈ steps.inits, front ≠ steps → d.turnsAway options here root front = false)) ∧
        (steps ∈ tour.given ↔ d.Within options here steps ∧
          ∀ front ∈ steps.inits, d.turnsAway options here root front = false) := by
  constructor
  · intro ⟨askedOnce, givenOnce, mem_asked, mem_given⟩
    exact ⟨askedOnce, givenOnce, fun steps _ => ⟨mem_asked steps, mem_given steps⟩⟩
  · intro ⟨askedOnce, givenOnce, both⟩
    have everywhere (steps : List String) := by
      by_cases listed : steps ∈ tour.asked ++ tour.given ++ namesBelow d here
      · exact both steps listed
      · -- names that are listed nowhere lead to no entry
        simp only [List.mem_append, not_or] at listed
        have notWithin : ¬ d.Within options here steps := fun within => listed.2 (mem_namesBelow within.1)
        simp [listed, notWithin]
    exact ⟨askedOnce, givenOnce, fun steps => (everywhere steps).1, fun steps => (everywhere steps).2⟩

end Tour

/-- In a tree without links a walk reports just the files and directories below its root that are
not too deep and not behind a directory with an ignored name, in the order of their paths, and
never the root.  A file is the only one that a walk from it reports.  All this is collected from
any walker that does as it should. -/
theorem walk_reports_unpruned (tree : d.IsTree) (located : d.locate root = .ok here) (linkFree : d.LinkFree here)
    (options : WalkOptions) :
    (d.entry? here = some .directory → d.Reports options here root (d.walk options root) ∧
      ∀ path ∈ (d.walk options root).directories, path.same root = false) ∧
    (∀ content executable, d.entry? here = some (.file content executable) →
      d.walk options root = { files := [⟨root, content.size⟩] }) ∧
    ∀ tour : Tour, (d.entry? here).isSome → tour.Follows d options here root →
      tour.collect d options here root = d.walk options root := by
  have ofDirectory (isDirectory : d.entry? here = some .directory) := reports_walk tree located isDirectory linkFree options
  have ofFile (content : ByteArray) (executable : Bool) (isFile : d.entry? here = some (.file content executable)) :
      d.walk options root = { files := [⟨root, content.size⟩] } := by
    simp only [walk, located, isFile]
  refine ⟨fun isDirectory => ?_, ofFile, fun tour present follows => ?_⟩
  · exact ⟨ofDirectory isDirectory, (ofDirectory isDirectory).not_root tree⟩
  · obtain ⟨entry, found⟩ := Option.isSome_iff_exists.mp present
    cases entry with
    | file content executable => rw [ofFile content executable found, follows.collect_eq_of_file tree found]
    | directory => exact (follows.reports_collect tree found).unique (ofDirectory found)
    | link target => exact absurd found (by simpa using linkFree [] target)

/-- A directory with a file and, in a directory of it, one with an ignored name. -/
def formDisk : Disk where
  entries :=
    [(["form"], .directory), (["form", "form.php"], .file "<?php".toUTF8 false), (["form", "inc"], .directory),
      (["form", "inc", "vendor"], .directory), (["form", "inc", "vendor", "a.php"], .file "<?php".toUTF8 false)]
  workingDirectory := []

/-- What a walker does there. -/
def formTour : Tour where
  asked := [["form.php"], ["inc"], ["inc", "vendor"]]
  given := [[], ["form.php"], ["inc"]]

theorem walk_reports_unpruned_formDisk :
    formDisk.IsTree ∧ formDisk.locate ⟨"form"⟩ = .ok ["form"] ∧ formDisk.LinkFree ["form"] ∧
      ⟨⟨"form/form.php"⟩, 5⟩ ∈ (formDisk.walk {} ⟨"form"⟩).files ∧
      ⟨"form/inc/vendor"⟩ ∈ (formDisk.walk {} ⟨"form"⟩).directories ∧
      formTour.collect formDisk {} ["form"] ⟨"form"⟩ = formDisk.walk {} ⟨"form"⟩ := by
  have tree : formDisk.IsTree := by decide +kernel
  have isDirectory : formDisk.entry? ["form"] = some .directory := by decide +kernel
  have located : formDisk.locate ⟨"form"⟩ = .ok ["form"] := by
    have root : formDisk.entry? [] = some .directory := rfl
    have names : Disk.steps "form" = ["form"] := by decide +kernel
    simp [locate, place, followFrom, Path.isAbsolute, names, show formDisk.workingDirectory = [] from rfl, root,
      isDirectory]
  have linkFree : formDisk.LinkFree ["form"] := by
    intro steps target found
    have member := mem_entries (by simp) found
    simp [formDisk] at member
  have follows : formTour.Follows formDisk {} ["form"] ⟨"form"⟩ :=
    Tour.follows_iff.mpr (by decide +kernel)
  obtain ⟨below, -, walker⟩ := walk_reports_unpruned tree located linkFree {}
  obtain ⟨reports, -⟩ := below isDirectory
  refine ⟨tree, located, linkFree, ?_, ?_, walker formTour (by simp [isDirectory]) follows⟩
  · refine (reports.mem_files _).mpr ⟨["form.php"], "<?php".toUTF8, false, ?_, by decide +kernel, by decide +kernel⟩
    exact ⟨by simp, by decide +kernel, by decide +kernel, by simp⟩
  · refine (reports.mem_directories _).mpr ⟨["inc", "vendor"], ?_, by decide +kernel, by decide +kernel⟩
    exact ⟨by simp, by decide +kernel, by decide +kernel, by decide +kernel⟩

end Disk

end PluginAudit
