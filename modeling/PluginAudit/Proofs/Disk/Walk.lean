import PluginAudit.Proofs.Disk.Tree

/-!
# What a walk reports

In a tree without links a walk comes to the entries within its depth that are not behind a
directory with an ignored name, to each of them once.  The same is collected from a walker
that asks a filter about each entry before it gives it out or enters it, where directories
that are turned away are noted by the filter.
-/

namespace PluginAudit

theorem WalkOptions.reaches_of_le {options : WalkOptions} {depth deeper : Nat} (le : depth ≤ deeper)
    (reached : options.reaches deeper) : options.reaches depth := by
  cases limit : options.maximalDepth with
  | none => simp [reaches, limit]
  | some limit =>
    simp [reaches, limit] at *
    omega

theorem Walked.nil_append (w : Walked) : ({} : Walked) ++ w = w := by
  show Walked.append _ _ = _
  simp [Walked.append]

@[simp] theorem Walked.append_nil (w : Walked) : w ++ ({} : Walked) = w := by
  show Walked.append _ _ = _
  simp [Walked.append]

theorem Walked.append_assoc (a b c : Walked) : a ++ b ++ c = a ++ (b ++ c) := by
  show Walked.append (Walked.append a b) c = Walked.append a (Walked.append b c)
  simp [Walked.append, Nat.add_assoc]

@[simp] theorem Walked.files_append (a b : Walked) : (a ++ b).files = a.files ++ b.files := rfl

namespace Disk

variable {d : Disk} {options : WalkOptions} {here : Location} {path root : Path} {depth : Nat} {name : String}
  {names steps rest : List String} {trail : List (List String)}

/-! ## The entries a walk comes to -/

/-- Names lead from a directory at a depth to an entry that a walk comes to: the entry is not
too deep, and no directory between has an ignored name. -/
structure Reached (d : Disk) (options : WalkOptions) (here : Location) (depth : Nat) (steps : List String) :
    Prop where
  given : steps ≠ []
  present : (d.entry? (here ++ steps)).isSome
  reaches : options.reaches (depth + steps.length)
  unpruned : ∀ name ∈ steps.dropLast, options.ignores name = false

theorem reached_singleton :
    d.Reached options here depth [name] ↔ (d.entry? (here ++ [name])).isSome ∧ options.reaches (depth + 1) :=
  ⟨fun reached => ⟨reached.present, reached.reaches⟩, fun both => ⟨by simp, both.1, both.2, by simp⟩⟩

theorem reached_cons (given : rest ≠ []) :
    d.Reached options here depth (name :: rest) ↔
      options.ignores name = false ∧ d.Reached options (here ++ [name]) (depth + 1) rest := by
  have deeper : depth + (name :: rest).length = depth + 1 + rest.length := by
    rw [List.length_cons]
    omega
  have names_eq : (name :: rest).dropLast = name :: rest.dropLast := List.dropLast_cons_of_ne_nil given
  constructor
  · intro ⟨_, present, reaches, unpruned⟩
    rw [deeper] at reaches
    rw [names_eq, List.forall_mem_cons] at unpruned
    exact ⟨unpruned.1, given, by simpa using present, reaches, unpruned.2⟩
  · intro ⟨kept, _, present, reaches, unpruned⟩
    refine ⟨by simp, by simpa using present, by rwa [deeper], ?_⟩
    rw [names_eq, List.forall_mem_cons]
    exact ⟨kept, unpruned⟩

/-- The entries that a walk comes to under names of a directory, each once. -/
structure Trail (d : Disk) (options : WalkOptions) (here : Location) (depth : Nat) (names : List String)
    (trail : List (List String)) : Prop where
  once : trail.Nodup
  mem_iff : ∀ steps, steps ∈ trail ↔ d.Reached options here depth steps ∧ ∃ name ∈ names, steps.head? = some name

namespace Trail

theorem nil : d.Trail options here depth [] [] := ⟨.nil, by simp⟩

theorem beyond (tooDeep : options.reaches (depth + 1) = false) : d.Trail options here depth names [] where
  once := .nil
  mem_iff steps := by
    constructor
    · intro member
      cases member
    · intro ⟨reached, _⟩
      have positive := List.length_pos_iff.mpr reached.given
      have reaches := WalkOptions.reaches_of_le (by omega : depth + 1 ≤ depth + steps.length) reached.reaches
      simp [tooDeep] at reaches

theorem cons {first : List (List String)} (own : d.Trail options here depth [name] first)
    (later : d.Trail options here depth names trail) (fresh : name ∉ names) :
    d.Trail options here depth (name :: names) (first ++ trail) where
  once := by
    -- the first step tells the two trails apart
    apply List.nodup_append.mpr
    refine ⟨own.once, later.once, fun steps here other there same => ?_⟩
    subst same
    obtain ⟨-, first, isFirst, head⟩ := (own.mem_iff steps).mp here
    obtain ⟨-, second, isLater, head'⟩ := (later.mem_iff steps).mp there
    rw [List.mem_singleton.mp isFirst] at head
    exact fresh (Option.some.inj (head.symm.trans head') ▸ isLater)
  mem_iff steps := by
    rw [List.mem_append, own.mem_iff, later.mem_iff]
    rw [← and_or_left]
    simp

/-- Nothing is come to under a name that is not there. -/
theorem absent (tree : d.IsTree) (absent : d.entry? (here ++ [name]) = none) :
    d.Trail options here depth [name] [] where
  once := .nil
  mem_iff steps := by
    constructor
    · intro member
      cases member
    · intro ⟨reached, _, isName, head⟩
      obtain ⟨rest, rfl⟩ := List.head?_eq_some_iff.mp head
      rw [List.mem_singleton.mp isName] at reached
      have present := mem_childNames.mp (tree.mem_childNames_of_append reached.present)
      simp [absent] at present

/-- An entry that is no directory, or one with an ignored name, is the only one under its name. -/
theorem leaf (tree : d.IsTree) (present : (d.entry? (here ++ [name])).isSome) (reaches : options.reaches (depth + 1))
    (stops : d.entry? (here ++ [name]) = some .directory → options.ignores name) :
    d.Trail options here depth [name] [[name]] where
  once := List.nodup_singleton _
  mem_iff steps := by
    constructor
    · intro member
      rw [List.mem_singleton.mp member]
      exact ⟨reached_singleton.mpr ⟨present, reaches⟩, name, by simp, rfl⟩
    · intro ⟨reached, _, isName, head⟩
      obtain ⟨rest, rfl⟩ := List.head?_eq_some_iff.mp head
      rw [List.mem_singleton.mp isName] at *
      by_cases given : rest = []
      · simp [given]
      · obtain ⟨kept, further⟩ := (reached_cons given).mp reached
        simp [stops (tree.isDirectory given further.present)] at kept

/-- Under the name of a directory that is entered are the directory and what is under its names. -/
theorem below (tree : d.IsTree) (isDirectory : d.entry? (here ++ [name]) = some .directory)
    (kept : options.ignores name = false) (reaches : options.reaches (depth + 1))
    (inside : d.Trail options (here ++ [name]) (depth + 1) (d.childNames (here ++ [name])) trail) :
    d.Trail options here depth [name] ([name] :: trail.map (name :: ·)) where
  once := by
    apply List.nodup_cons.mpr
    refine ⟨fun member => ?_, inside.once.map List.cons_injective⟩
    obtain ⟨rest, member, same⟩ := List.mem_map.mp member
    injection same with _ none
    exact ((inside.mem_iff _).mp member).1.given none
  mem_iff steps := by
    constructor
    · intro onTrail
      cases List.mem_cons.mp onTrail with
      | inl same =>
        rw [same]
        exact ⟨reached_singleton.mpr ⟨by simp [isDirectory], reaches⟩, name, by simp, rfl⟩
      | inr further =>
        obtain ⟨rest, member, rfl⟩ := List.mem_map.mp further
        have reached := ((inside.mem_iff rest).mp member).1
        exact ⟨(reached_cons reached.given).mpr ⟨kept, reached⟩, name, by simp, rfl⟩
    · intro ⟨reached, _, isName, head⟩
      obtain ⟨rest, rfl⟩ := List.head?_eq_some_iff.mp head
      rw [List.mem_singleton.mp isName] at *
      by_cases given : rest = []
      · simp [given]
      · have further := ((reached_cons given).mp reached).2
        obtain ⟨next, others, rfl⟩ := List.exists_cons_of_ne_nil given
        have isChild := tree.mem_childNames_of_append further.present
        exact List.mem_cons_of_mem _ (List.mem_map_of_mem ((inside.mem_iff _).mpr ⟨further, next, isChild, rfl⟩))

end Trail

/-! ## What is reported of them -/

/-- The files among entries, which are given by the names that lead to them. -/
def filesAmong (d : Disk) (here : Location) (path : Path) (entries : List (List String)) : List WalkedFile :=
  entries.filterMap fun steps =>
    match d.entry? (here ++ steps) with
    | some (.file content _) => some ⟨path.along steps, content.size⟩
    | _ => none

/-- The files and directories among entries. -/
def gather (d : Disk) (here : Location) (path : Path) (entries : List (List String)) : Walked where
  files := d.filesAmong here path entries
  directories := (entries.filter fun steps => d.entry? (here ++ steps) = some .directory).map path.along

theorem gather_append (d : Disk) (here : Location) (path : Path) (entries more : List (List String)) :
    d.gather here path (entries ++ more) = d.gather here path entries ++ d.gather here path more := by
  show _ = Walked.append _ _
  simp [gather, filesAmong, Walked.append]

theorem gather_cons (d : Disk) (here : Location) (path : Path) (steps : List String) (more : List (List String)) :
    d.gather here path (steps :: more) = d.gather here path [steps] ++ d.gather here path more :=
  d.gather_append here path [steps] more

theorem gather_map_cons (d : Disk) (here : Location) (path : Path) (name : String) (entries : List (List String)) :
    d.gather here path (entries.map (name :: ·)) = d.gather (here ++ [name]) (path.join name) entries := by
  simp [gather, filesAmong, List.filterMap_map, List.filter_map, Function.comp_def, Path.along]

theorem gather_file {content : ByteArray} {executable : Bool}
    (isFile : d.entry? (here ++ [name]) = some (.file content executable)) :
    d.gather here path [[name]] = { files := [⟨path.join name, content.size⟩] } := by
  simp [gather, filesAmong, isFile, Path.along]

theorem gather_directory (isDirectory : d.entry? (here ++ [name]) = some .directory) :
    d.gather here path [[name]] = { directories := [path.join name] } := by
  simp [gather, filesAmong, isDirectory, Path.along]

/-- Below a directory there are no links. -/
def LinkFree (d : Disk) (here : Location) : Prop := ∀ steps target, d.entry? (here ++ steps) ≠ some (.link target)

theorem LinkFree.below (linkFree : d.LinkFree here) (name : String) : d.LinkFree (here ++ [name]) := by
  intro steps target found
  exact linkFree (name :: steps) target (by simpa using found)

/-- What is found is what a walk of names comes to. -/
def Finds (d : Disk) (options : WalkOptions) (here : Location) (path : Path) (depth : Nat) (names : List String)
    (found : Walked) : Prop :=
  ∃ trail, d.Trail options here depth names trail ∧ found = d.gather here path trail

namespace Finds

variable {found later : Walked}

theorem nothing (trail : d.Trail options here depth names []) : d.Finds options here path depth names {} :=
  ⟨[], trail, rfl⟩

theorem cons (own : d.Finds options here path depth [name] found) (others : d.Finds options here path depth names later)
    (distinct : (name :: names).Nodup) : d.Finds options here path depth (name :: names) (found ++ later) := by
  obtain ⟨first, ofName, rfl⟩ := own
  obtain ⟨trail, ofNames, rfl⟩ := others
  have fresh := (List.nodup_cons.mp distinct).1
  exact ⟨first ++ trail, ofName.cons ofNames fresh, (d.gather_append here path first trail).symm⟩

theorem file (tree : d.IsTree) (reaches : options.reaches (depth + 1)) {content : ByteArray} {executable : Bool}
    (isFile : d.entry? (here ++ [name]) = some (.file content executable)) :
    d.Finds options here path depth [name] { files := [⟨path.join name, content.size⟩] } :=
  ⟨[[name]], .leaf tree (by simp [isFile]) reaches (by simp [isFile]), (gather_file isFile).symm⟩

theorem ignored (tree : d.IsTree) (reaches : options.reaches (depth + 1))
    (isDirectory : d.entry? (here ++ [name]) = some .directory) (ignored : options.ignores name) :
    d.Finds options here path depth [name] { directories := [path.join name] } :=
  ⟨[[name]], .leaf tree (by simp [isDirectory]) reaches fun _ => ignored, (gather_directory isDirectory).symm⟩

theorem entered (tree : d.IsTree) (reaches : options.reaches (depth + 1))
    (isDirectory : d.entry? (here ++ [name]) = some .directory) (kept : ¬ options.ignores name)
    (inside : d.Finds options (here ++ [name]) (path.join name) (depth + 1) (d.childNames (here ++ [name])) found) :
    d.Finds options here path depth [name] ({ directories := [path.join name] } ++ found) := by
  obtain ⟨trail, below, rfl⟩ := inside
  refine ⟨_, .below tree isDirectory (Bool.eq_false_iff.mpr kept) reaches below, ?_⟩
  rw [gather_cons, gather_directory isDirectory, gather_map_cons]

end Finds

/-- A walk of names in a tree without links finds what it comes to, whichever directories it
has not visited yet. -/
theorem finds_walkNames (tree : d.IsTree) (options : WalkOptions) (unvisited : List Location) (here : Location)
    (path : Path) (depth : Nat) (names : List String) (linkFree : d.LinkFree here) (distinct : names.Nodup) :
    d.Finds options here path depth names (d.walkNames options d.height unvisited here path depth names) := by
  fun_induction walkNames d options d.height unvisited here path depth names with
  | case1 => exact .nothing .nil
  | case2 _ _ _ _ _ _ tooDeep => exact .nothing (.beyond (by simpa using tooDeep))
  | case3 _ _ _ _ _ _ later _ _ absent others =>
    rw [← Walked.nil_append later]
    exact (Finds.nothing (.absent tree absent)).cons (others linkFree distinct.of_cons) distinct
  | case4 _ _ _ _ _ _ _ _ _ reaches _ _ isFile others =>
    exact (Finds.file tree (by simpa using reaches) isFile).cons (others linkFree distinct.of_cons) distinct
  | case5 _ _ _ _ _ _ _ _ _ reaches isDirectory isIgnored others =>
    exact (Finds.ignored tree (by simpa using reaches) isDirectory isIgnored).cons (others linkFree distinct.of_cons) distinct
  | case6 _ _ _ _ name _ _ _ _ reaches isDirectory kept _ others inside =>
    have below := inside (linkFree.below name) (tree.nodup_childNames _)
    exact (Finds.entered tree (by simpa using reaches) isDirectory kept below).cons (others linkFree distinct.of_cons) distinct
  | case7 _ _ _ _ name _ _ _ _ reaches isDirectory kept _ _ others inside =>
    have below := inside (linkFree.below name) (tree.nodup_childNames _)
    exact (Finds.entered tree (by simpa using reaches) isDirectory kept below).cons (others linkFree distinct.of_cons) distinct
  -- every directory is high enough to be entered, so the walk does not depend on what was visited
  | case8 _ _ _ _ _ _ _ _ _ _ isDirectory _ _ tooHigh => exact absurd (length_le_height (by simp [isDirectory])) tooHigh
  | case9 _ _ _ _ name _ _ _ _ _ target isLink
  | case10 _ _ _ _ name _ _ _ _ _ target isLink
  | case11 _ _ _ _ name _ _ _ _ _ target isLink
  | case12 _ _ _ _ name _ _ _ _ _ target isLink
  | case13 _ _ _ _ name _ _ _ _ _ target isLink
  | case14 _ _ _ _ name _ _ _ _ _ target isLink => exact absurd isLink (linkFree [name] target)

/-! ## Reports in order -/

/-- A report of the entries below a directory that a walk comes to, and of no others: files with
their sizes and directories, both in the strict order of their paths, which are those along the
names that lead to the entries. -/
structure Reports (d : Disk) (options : WalkOptions) (here : Location) (root : Path) (found : Walked) : Prop where
  mem_files : ∀ file, file ∈ found.files ↔ ∃ steps content executable,
    d.Reached options here 0 steps ∧ d.entry? (here ++ steps) = some (.file content executable) ∧
      file = ⟨root.along steps, content.size⟩
  mem_directories : ∀ path, path ∈ found.directories ↔ ∃ steps,
    d.Reached options here 0 steps ∧ d.entry? (here ++ steps) = some .directory ∧ path = root.along steps
  filesAscend : found.files.Pairwise fun a b => a.path.less b.path
  directoriesAscend : found.directories.Pairwise fun a b => a.less b
  noLoop : found.loops = 0
  noError : found.errors = 0

variable {found found' : Walked}

/-- There is one such report. -/
theorem Reports.unique (first : d.Reports options here root found) (second : d.Reports options here root found') :
    found = found' := by
  have files : found.files = found'.files :=
    Path.componentsOrder.eq_of_mem_iff first.filesAscend second.filesAscend fun file =>
      (first.mem_files file).trans (second.mem_files file).symm
  have directories : found.directories = found'.directories :=
    Path.componentsOrder.eq_of_mem_iff first.directoriesAscend second.directoriesAscend fun directory =>
      (first.mem_directories directory).trans (second.mem_directories directory).symm
  have loops := first.noLoop.trans second.noLoop.symm
  have errors := first.noError.trans second.noError.symm
  cases found
  cases found'
  simp_all

/-- The root of a walk is not among the directories it reports. -/
theorem Reports.not_root (tree : d.IsTree) (reports : d.Reports options here root found) :
    ∀ path ∈ found.directories, path.same root = false := by
  intro path member
  obtain ⟨steps, reached, -, rfl⟩ := (reports.mem_directories path).mp member
  have isName : ∀ name ∈ steps, IsName name := fun name isStep =>
    tree.isName reached.present name (List.mem_append_right here isStep)
  simp [Path.same, Path.components_along isName, reached.given]

theorem mem_filesAmong {entries : List (List String)} {file : WalkedFile} :
    file ∈ d.filesAmong here path entries ↔ ∃ steps content executable,
      steps ∈ entries ∧ d.entry? (here ++ steps) = some (.file content executable) ∧
        file = ⟨path.along steps, content.size⟩ := by
  rw [filesAmong, List.mem_filterMap]
  constructor
  · intro ⟨steps, member, isFile⟩
    split at isFile
    case h_1 content executable there => exact ⟨steps, content, executable, member, there, by simpa using isFile.symm⟩
    case h_2 => cases isFile
  · intro ⟨steps, content, executable, member, there, same⟩
    exact ⟨steps, member, by simp [there, same]⟩

/-- Different entries are at different paths. -/
theorem components_along_ne (tree : d.IsTree) {other : List String} (present : (d.entry? (here ++ steps)).isSome)
    (present' : (d.entry? (here ++ other)).isSome) (different : steps ≠ other) :
    (path.along steps).components ≠ (path.along other).components := by
  intro same
  apply different
  apply path.along_injective _ _ same
  · exact fun name isStep => tree.isName present name (List.mem_append_right here isStep)
  · exact fun name isStep => tree.isName present' name (List.mem_append_right here isStep)

/-- What is gathered from lists without repetitions is a report once it is sorted. -/
theorem reports_sorted (tree : d.IsTree) {files directories : List (List String)} (filesOnce : files.Nodup)
    (directoriesOnce : directories.Nodup)
    (mem_files : ∀ steps content executable, d.entry? (here ++ steps) = some (.file content executable) →
      (steps ∈ files ↔ d.Reached options here 0 steps))
    (mem_directories : ∀ steps, steps ∈ directories ↔
      d.Reached options here 0 steps ∧ d.entry? (here ++ steps) = some .directory) :
    d.Reports options here root
      (Walked.sorted { files := d.filesAmong here root files, directories := directories.map root.along }) where
  mem_files file := by
    rw [Walked.sorted, List.mem_mergeSort, mem_filesAmong]
    constructor
    · intro ⟨steps, content, executable, member, there, same⟩
      exact ⟨steps, content, executable, (mem_files _ _ _ there).mp member, there, same⟩
    · intro ⟨steps, content, executable, reached, there, same⟩
      exact ⟨steps, content, executable, (mem_files _ _ _ there).mpr reached, there, same⟩
  mem_directories path := by
    rw [Walked.sorted, List.mem_mergeSort, List.mem_map]
    constructor
    · intro ⟨steps, member, same⟩
      obtain ⟨reached, there⟩ := (mem_directories steps).mp member
      exact ⟨steps, reached, there, same.symm⟩
    · intro ⟨steps, reached, there, same⟩
      exact ⟨steps, (mem_directories steps).mpr ⟨reached, there⟩, same.symm⟩
  filesAscend := by
    -- sorting makes the order strict, as no path occurs twice
    apply Path.componentsOrder.pairwise_mergeSort
    apply List.pairwise_map.mpr
    apply List.Pairwise.filterMap _ _ filesOnce
    intro steps other different file isFile file' isFile'
    split at isFile
    case h_1 there =>
      split at isFile'
      case h_1 there' =>
        cases isFile
        cases isFile'
        exact components_along_ne tree (Option.isSome_of_eq_some there) (Option.isSome_of_eq_some there') different
      case h_2 => cases isFile'
    case h_2 => cases isFile
  directoriesAscend := by
    apply Path.componentsOrder.pairwise_mergeSort
    apply List.pairwise_map.mpr
    apply List.pairwise_map.mpr
    apply directoriesOnce.imp_of_mem
    intro steps other member member' different
    exact components_along_ne tree ((mem_directories steps).mp member).1.present
      ((mem_directories other).mp member').1.present different
  noLoop := rfl
  noError := rfl

/-- A walk from a directory reports what it comes to below. -/
theorem reports_walk (tree : d.IsTree) (located : d.locate root = .ok here)
    (isDirectory : d.entry? here = some .directory) (linkFree : d.LinkFree here) (options : WalkOptions) :
    d.Reports options here root (d.walk options root) := by
  obtain ⟨trail, covers, found⟩ := finds_walkNames tree options (d.directories.erase here) here root 0
    (d.childNames here) linkFree (tree.nodup_childNames here)
  have mem_trail (steps : List String) : steps ∈ trail ↔ d.Reached options here 0 steps := by
    rw [covers.mem_iff]
    constructor
    · exact And.left
    · intro reached
      obtain ⟨name, rest, rfl⟩ := List.exists_cons_of_ne_nil reached.given
      exact ⟨reached, name, tree.mem_childNames_of_append reached.present, rfl⟩
  simp only [walk, located, isDirectory, found]
  apply reports_sorted tree covers.once (covers.once.filter _)
  · intro steps _ _ _
    exact mem_trail steps
  · intro steps
    simp [mem_trail]

end Disk

end PluginAudit
