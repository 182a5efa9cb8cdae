import PluginAudit.Checks.Files
import PluginAudit.Proofs.Disk.Following
import PluginAudit.Proofs.Disk.Walk
import PluginAudit.Readme

/-!
# A file beside a plugin

A tree that gets one more file stays the same for everything that lies elsewhere: paths lead to
the same places, unless they lead to the new file or through its place.  So where no path into a
plugin does, walks of the plugin and the files in it stay the same.
-/

namespace PluginAudit

open PluginAudit.Text

namespace Disk

variable {d : Disk} {follow executable : Bool} {links : Nat} {here location : Location} {names : List String}
  {p : Path} {name : String} {content : ByteArray}

/-! ## Paths -/

/-- With one more file, names lead to the same place, or to the file where its place was free, or
they lead through its place. -/
theorem followFrom_put_cases (absent : d.entry? location = none) :
    (d.put location (.file content executable)).followFrom follow links here names =
        d.followFrom follow links here names ∨
      d.followFrom follow links here names = .ok ⟨location, false⟩ ∧
        (d.put location (.file content executable)).followFrom follow links here names = .ok ⟨location, true⟩ ∨
      d.followFrom follow links here names = .error .missing ∧
        (d.put location (.file content executable)).followFrom follow links here names = .error .notDirectory := by
  have stored := @entry?_put_self d location (.file content executable) absent
  have other {elsewhere : Location} (different : elsewhere ≠ location) :
      entry? (d.put location (.file content executable)) elsewhere = d.entry? elsewhere :=
    entry?_put_other different
  -- every place on the way has an entry, so that it is not the one stored at
  have same {elsewhere : Location} {entry : Entry} (found : d.entry? elsewhere = some entry) :
      entry? (d.put location (.file content executable)) elsewhere = some entry := by
    rw [other, found]
    rintro rfl
    rw [absent] at found
    cases found
  fun_induction followFrom d follow links here names with
  | case1 =>
    rw [followFrom]
    exact .inl rfl
  | case4 _ here _ rest isDirectory notHere notUp child free last =>
    rw [followFrom, same isDirectory]
    obtain rfl : rest = [] := by simpa using last
    by_cases isStored : child = location
    · refine .inr (.inl ⟨by rw [isStored], ?_⟩)
      simp_all +zetaDelta [followFrom]
    · refine .inl ?_
      simp_all +zetaDelta
  | case5 _ here _ rest isDirectory notHere notUp child free notLast =>
    rw [followFrom, same isDirectory]
    by_cases isStored : child = location
    · -- nothing is below a file
      obtain ⟨first, others, rfl⟩ := List.exists_cons_of_ne_nil (by simpa using notLast : rest ≠ [])
      refine .inr (.inr ⟨rfl, ?_⟩)
      simp_all +zetaDelta [followFrom]
    · refine .inl ?_
      simp_all +zetaDelta
  | case8 =>
    rename_i isDirectory notHere notUp _ _ isLink continued _ _ inductionHypothesis
    rw [followFrom, same isDirectory]
    dsimp only
    rw [if_neg notHere, if_neg notUp, same isLink]
    dsimp only
    rw [if_neg continued]
    exact inductionHypothesis
  | case10 _ here _ _ notDirectory =>
    rw [followFrom]
    by_cases isStored : here = location
    · simp [isStored, stored]
    · simp_all [other isStored]
  | _ =>
    rw [followFrom]
    simp_all +zetaDelta

/-- With one more file, a path that leads somewhere leads to the same place. -/
theorem place_put_of_locate (absent : d.entry? location = none) (located : d.locate p = .ok here) :
    (d.put location (.file content executable)).place true p = d.place true p := by
  obtain ⟨given, led⟩ := place_of_locate located
  have start : (d.put location (.file content executable)).workingDirectory = d.workingDirectory := rfl
  unfold place at led ⊢
  simp only [String.isEmpty_iff, given, if_false, start] at led ⊢
  rcases followFrom_put_cases absent with same | ⟨free, -⟩ | ⟨missing, -⟩
  · exact same
  · simp [led] at free
  · simp [led] at missing

theorem eq_or_isName_of_mem_steps {text : String} (member : name ∈ steps text) :
    name = "." ∨ name = ".." ∨ IsName name := by
  have named : name ∈ namesOf text.toList → IsName name ∨ name = "." ∨ name = ".." := by
    intro member
    obtain ⟨piece, isPiece, rfl⟩ := List.mem_map.mp member
    obtain ⟨isPiece, notEmpty⟩ := List.mem_filter.mp isPiece
    have noSlash := not_mem_of_mem_splitOn isPiece
    by_cases idle : String.ofList piece = "." ∨ String.ofList piece = ".."
    · exact .inr idle
    · refine .inl ⟨fun c isChar => ?_, ?_, fun isDot => idle (.inl isDot), fun isUp => idle (.inr isUp)⟩
      · rw [String.toList_ofList] at isChar
        simpa using fun isSlash : c = '/' => noSlash (isSlash ▸ isChar)
      · simpa using notEmpty
  rcases steps_eq text with same | same <;> rw [same] at member
  · have := named member
    tauto
  · rcases List.mem_append.mp member with front | last
    · have := named front
      tauto
    · exact .inl (List.mem_singleton.mp last)

/-- Names lead to a free place only behind a directory that they lead to. -/
theorem exists_of_followFrom_free (areSteps : ∀ name ∈ names, name = "." ∨ name = ".." ∨ IsName name)
    (led : d.followFrom follow links here names = .ok ⟨location, false⟩) :
    ∃ directory name, IsName name ∧ d.entry? directory = some .directory ∧ location = directory ++ [name] := by
  fun_induction followFrom d follow links here names with
  | case1 => cases led
  | case4 _ here name _ isDirectory notHere notUp =>
    have isName := (areSteps name List.mem_cons_self).resolve_left (by simpa using notHere)
    have same := congrArg Place.location (Except.ok.inj led)
    exact ⟨here, name, isName.resolve_left (by simpa using notUp), isDirectory, same.symm⟩
  | case8 =>
    rename_i inductionHypothesis
    refine inductionHypothesis (fun name member => ?_) led
    rcases List.mem_append.mp member with inTarget | later
    · exact eq_or_isName_of_mem_steps inTarget
    · exact areSteps name (List.mem_cons_of_mem _ later)
  | case2 | case3 | case9 =>
    rename_i inductionHypothesis
    exact inductionHypothesis (fun name member => areSteps name (List.mem_cons_of_mem _ member)) led
  | _ => simp at led

/-- Where a path leads to nothing, a file is written as one more name in a directory. -/
theorem exists_put_of_write {grown : Disk} (tree : d.IsTree) (nothing : d.pathExists p = false)
    (written : d.write p content = .ok grown) :
    ∃ directory name, IsName name ∧ d.entry? directory = some .directory ∧
      d.entry? (directory ++ [name]) = none ∧ grown = d.put (directory ++ [name]) (.file content false) := by
  unfold write at written
  cases led : d.place true p with
  | error fault =>
    rw [led] at written
    cases written
  | ok found =>
    obtain ⟨location, present⟩ := found
    cases present with
    | true =>
      -- a path that leads to an entry leads to something
      have located : d.locate p = .ok location := by simp [locate, led]
      obtain ⟨entry, isEntry, -⟩ := settled_of_locate tree located
      simp [pathExists, resolve?, located, isEntry] at nothing
    | false =>
      have free := place_free led
      simp only [led, free] at written
      have given : ¬ p.text.isEmpty := fun empty => by simp [place, empty] at led
      rw [place, if_neg given] at led
      obtain ⟨directory, name, isName, isDirectory, rfl⟩ :=
        exists_of_followFrom_free (fun name member => eq_or_isName_of_mem_steps member) led
      split at written
      · cases written
      · exact ⟨directory, name, isName, isDirectory, free, (Except.ok.inj written).symm⟩

/-! ## One more file -/

/-- All paths into a plugin lead to the same places in two trees. -/
structure LeadsAlike (d : Disk) (context : PluginContext) (grown : Disk) : Prop where
  mainFile : grown.place true context.mainFile = d.place true context.mainFile
  inside : ∀ names, (∀ name ∈ names, IsName name) →
    grown.place true (context.root.along names) = d.place true (context.root.along names)

/-- A tree with one more file in it, which no path into a plugin leads to or through. -/
structure GainsBeside (d : Disk) (context : PluginContext) (grown : Disk) : Prop where
  tree : d.IsTree
  gained : ∃ directory name content, IsName name ∧ d.entry? directory = some .directory ∧
    d.entry? (directory ++ [name]) = none ∧ grown = d.put (directory ++ [name]) (.file content false)
  paths : d.LeadsAlike context grown

/-- A path into a plugin leads to a location. -/
structure Inside (d : Disk) (context : PluginContext) (path : Path) (here : Location) : Prop where
  along : ∃ names, (∀ name ∈ names, IsName name) ∧ path = context.root.along names
  located : d.locate path = .ok here

theorem locate_congr {grown : Disk} (same : grown.place true p = d.place true p) : grown.locate p = d.locate p := by
  simp only [locate, same]

namespace Inside

variable {context : PluginContext} {path : Path}

theorem along_join (inside : d.Inside context path here) (isName : IsName name) :
    ∃ names, (∀ other ∈ names, IsName other) ∧ path.join name = context.root.along names := by
  obtain ⟨names, areNames, rfl⟩ := inside.along
  refine ⟨names ++ [name], ?_, (along_concat _ _ _).symm⟩
  simpa [or_imp, forall_and] using ⟨areNames, isName⟩

theorem root (located : d.locate context.root = .ok here) : d.Inside context context.root here :=
  ⟨⟨[], List.forall_mem_nil _, rfl⟩, located⟩

theorem below (inside : d.Inside context path here) (tree : d.IsTree) (isName : IsName name)
    (isDirectory : d.entry? (here ++ [name]) = some .directory) :
    d.Inside context (path.join name) (here ++ [name]) where
  along := inside.along_join isName
  located := locate_join inside.located (tree.isDirectory (List.cons_ne_nil name []) (by simp [isDirectory])) isName
    isDirectory rfl

end Inside

/-- The files that a walk of names finds lie along names behind its path. -/
theorem exists_along_of_mem_walkNames (tree : d.IsTree) {options : WalkOptions} {height depth : Nat}
    {unvisited : List Location} {path : Path} (among : names ⊆ d.childNames here) {file : WalkedFile}
    (member : file ∈ (d.walkNames options height unvisited here path depth names).files) :
    ∃ steps, (∀ name ∈ steps, IsName name) ∧ file.path = path.along steps := by
  -- the names of a directory can be joined to a path to it
  have isName {name : String} {here : Location} (child : name ∈ d.childNames here) : IsName name :=
    tree.isName (mem_childNames.mp child) name (by simp)
  have behind {name : String} {path : Path} (isName : IsName name)
      (found : ∃ steps, (∀ name ∈ steps, IsName name) ∧ file.path = (path.join name).along steps) :
      ∃ steps, (∀ name ∈ steps, IsName name) ∧ file.path = path.along steps := by
    obtain ⟨steps, areNames, same⟩ := found
    exact ⟨name :: steps, by simpa using ⟨isName, areNames⟩, same⟩
  fun_induction Disk.walkNames d options height unvisited here path depth names with
  | case1 | case2 => cases member
  | case3 =>
    rename_i inductionHypothesis
    exact inductionHypothesis (List.subset_of_cons_subset among) member
  | case4 | case10 =>
    rename_i inductionHypothesis
    simp only [Walked.files_append, List.singleton_append, List.mem_cons] at member
    rcases member with rfl | later
    · exact ⟨[_], by simpa using isName (among List.mem_cons_self), rfl⟩
    · exact inductionHypothesis (List.subset_of_cons_subset among) later
  | case5 | case8 | case9 | case11 | case13 | case14 =>
    rename_i inductionHypothesis
    simp only [Walked.files_append, List.nil_append] at member
    exact inductionHypothesis (List.subset_of_cons_subset among) member
  | case6 | case7 | case12 =>
    rename_i later below
    simp only [Walked.files_append, List.nil_append, List.mem_append] at member
    rcases member with inside | behindIt
    · exact behind (isName (among List.mem_cons_self)) (below (List.Subset.refl _) inside)
    · exact later (List.subset_of_cons_subset among) behindIt

namespace GainsBeside

variable {context : PluginContext} {grown : Disk} {path : Path}

/-- What is there without the file is there with it. -/
theorem entry? (beside : d.GainsBeside context grown) {entry : Entry} (found : d.entry? location = some entry) :
    grown.entry? location = some entry := by
  obtain ⟨directory, name, content, -, -, free, rfl⟩ := beside.gained
  rw [entry?_put_other, found]
  rintro rfl
  rw [free] at found
  cases found

theorem directories (beside : d.GainsBeside context grown) : grown.directories = d.directories := by
  obtain ⟨directory, name, content, -, -, free, rfl⟩ := beside.gained
  have absent : Assoc.get? (directory ++ [name]) d.entries = none := by simpa [Disk.entry?] using free
  simp only [Disk.directories, put]
  rw [Assoc.filterMap_put .location absent (by rfl)]

theorem le_height (beside : d.GainsBeside context grown) : d.height ≤ grown.height := by
  have each : ∀ entry ∈ d.entries, entry.1.length ≤ grown.height := by
    intro entry member
    by_cases isRoot : entry.1 = []
    · simp [isRoot]
    · have present : (d.entry? entry.1).isSome := by
        simpa [Disk.entry?, isRoot, Assoc.contains] using Assoc.contains_iff.mpr ⟨entry.2, member⟩
      obtain ⟨found, isFound⟩ := Option.isSome_iff_exists.mp present
      exact length_le_height (Option.isSome_of_eq_some (beside.entry? isFound))
  unfold height
  generalize d.entries = entries at each
  induction entries with
  | nil => exact Nat.zero_le _
  | cons entry rest inductionHypothesis =>
    have others := inductionHypothesis fun other member => each other (List.mem_cons_of_mem entry member)
    exact max_le (each entry List.mem_cons_self) others

/-- The file is in no directory that a path into the plugin leads to. -/
theorem entry?_join (beside : d.GainsBeside context grown) (inside : d.Inside context path here) (name : String) :
    grown.entry? (here ++ [name]) = d.entry? (here ++ [name]) := by
  obtain ⟨directory, last, content, isName, isDirectory, free, rfl⟩ := beside.gained
  refine entry?_put_other fun same => ?_
  obtain ⟨rfl, rfl⟩ : here = directory ∧ name = last := by simpa using List.append_inj' same rfl
  -- the path with the name of the file behind it would lead there
  have stored := @entry?_put_self d (here ++ [name]) (.file content false) free
  obtain ⟨names, areNames, rfl⟩ := inside.along
  have located := (locate_congr (beside.paths.inside names areNames)).trans inside.located
  obtain ⟨left, led⟩ := exists_place_join located isName true
  rw [followFrom_entry (beside.entry? isDirectory) isName stored rfl] at led
  obtain ⟨names', areNames', joined⟩ := inside.along_join isName
  rw [joined, beside.paths.inside names' areNames', ← joined] at led
  have led' := settled_of_locate beside.tree (locate_eq_ok_iff.mpr led)
  obtain ⟨entry, found, -⟩ := led'
  rw [free] at found
  cases found

theorem childNames (beside : d.GainsBeside context grown) (inside : d.Inside context path here) :
    grown.childNames here = d.childNames here := by
  have same := beside.entry?_join inside
  obtain ⟨directory, name, content, -, -, free, rfl⟩ := beside.gained
  have absent : Assoc.get? (directory ++ [name]) d.entries = none := by simpa [Disk.entry?] using free
  have elsewhere : directory ≠ here := by
    rintro rfl
    have stored := @entry?_put_self d (directory ++ [name]) (.file content false) free
    rw [same name, free] at stored
    cases stored
  simp only [Disk.childNames, put]
  rw [Assoc.filterMap_put .location absent (by simp [elsewhere])]

theorem locate_join (beside : d.GainsBeside context grown) (inside : d.Inside context path here)
    (isName : IsName name) : grown.locate (path.join name) = d.locate (path.join name) := by
  obtain ⟨names, areNames, joined⟩ := inside.along_join isName
  rw [joined]
  exact locate_congr (beside.paths.inside names areNames)

/-- A path that leads to the same place leads to the same entry. -/
theorem entry?_of_locate (beside : d.GainsBeside context grown) (located : d.locate p = .ok location) :
    grown.entry? location = d.entry? location := by
  obtain ⟨entry, found, -⟩ := settled_of_locate beside.tree located
  rw [found, beside.entry? found]

theorem read (beside : d.GainsBeside context grown) (same : grown.place true p = d.place true p) :
    grown.readLossy p = d.readLossy p := by
  unfold readLossy Disk.read
  rw [locate_congr same]
  cases located : d.locate p with
  | error fault => rfl
  | ok location =>
    dsimp only
    rw [beside.entry?_of_locate located]

theorem read_along (beside : d.GainsBeside context grown) (inside : d.Inside context path here)
    (isName : IsName name) : grown.readLossy (path.join name) = d.readLossy (path.join name) := by
  obtain ⟨names, areNames, joined⟩ := inside.along_join isName
  rw [joined]
  exact beside.read (beside.paths.inside names areNames)

/-! ## Walks -/

/-- A walk of names in the plugin finds the same. -/
theorem walkNames (beside : d.GainsBeside context grown) (options : WalkOptions) {height height' : Nat}
    (high : d.height ≤ height) (high' : d.height ≤ height') (unvisited : List Location)
    (inside : d.Inside context path here) (depth : Nat) {names : List String} (among : names ⊆ d.childNames here) :
    grown.walkNames options height' unvisited here path depth names =
      d.walkNames options height unvisited here path depth names := by
  -- the names of a directory can be joined to a path to it
  have isName {name : String} {here : Location} (child : name ∈ d.childNames here) : IsName name :=
    beside.tree.isName (mem_childNames.mp child) name (by simp)
  fun_induction Disk.walkNames d options height unvisited here path depth names with
  | case1 => rw [Disk.walkNames]
  | case2 =>
    rw [Disk.walkNames]
    simp_all
  | case3 | case4 | case5 =>
    rw [Disk.walkNames, beside.entry?_join inside]
    simp_all +zetaDelta
  | case6 _ here path _ name _ _ child _ _ isDirectory _ _ ih2 ih1 =>
    have below := inside.below beside.tree (isName (among List.mem_cons_self)) isDirectory
    have belowNames := beside.childNames below
    rw [Disk.walkNames, beside.entry?_join inside]
    simp_all +zetaDelta
  | case7 _ here path _ name _ _ child _ _ isDirectory =>
    have below := inside.below beside.tree (isName (among List.mem_cons_self)) isDirectory
    have belowNames := beside.childNames below
    have low : child.length ≤ height' := (length_le_height (Option.isSome_of_eq_some isDirectory)).trans high'
    rw [Disk.walkNames, beside.entry?_join inside]
    simp_all +zetaDelta
  | case8 _ here path _ name _ _ child _ _ isDirectory _ _ deep =>
    exact absurd ((length_le_height (Option.isSome_of_eq_some isDirectory)).trans high) deep
  | case12 _ here path _ name _ _ child _ _ _ isLink location located =>
    have linked : d.Inside context (path.join name) location :=
      ⟨inside.along_join (isName (among List.mem_cons_self)), located⟩
    have linkedNames := beside.childNames linked
    have sameLocation := beside.locate_join inside (isName (among List.mem_cons_self))
    have sameEntry := beside.entry?_of_locate located
    rw [Disk.walkNames, beside.entry?_join inside]
    simp_all +zetaDelta
  | case9 =>
    have sameLocation := beside.locate_join inside (isName (among List.mem_cons_self))
    rw [Disk.walkNames, beside.entry?_join inside]
    simp_all +zetaDelta
  | case10 | case11 | case13 | case14 =>
    have sameLocation := beside.locate_join inside (isName (among List.mem_cons_self))
    have sameEntry := beside.entry?_of_locate (by assumption)
    rw [Disk.walkNames, beside.entry?_join inside]
    simp_all +zetaDelta

theorem inside_nil (beside : d.GainsBeside context grown) : grown.place true context.root = d.place true context.root :=
  beside.paths.inside [] (List.forall_mem_nil _)

/-- A walk of the plugin finds the same. -/
theorem files (beside : d.GainsBeside context grown) (options : WalkOptions) :
    context.files grown options = context.files d options := by
  unfold PluginContext.files walk
  rw [locate_congr beside.inside_nil]
  cases located : d.locate context.root with
  | error fault => rfl
  | ok location =>
    dsimp only
    rw [beside.entry?_of_locate located]
    cases found : d.entry? location with
    | none => rfl
    | some entry =>
      cases entry with
      | file content executable => rfl
      | link target => rfl
      | directory =>
        have inside := Inside.root located
        dsimp only
        rw [beside.directories, beside.childNames inside,
          beside.walkNames options le_rfl beside.le_height _ inside 0 (List.Subset.refl _)]

theorem exists_along_of_mem_files (tree : d.IsTree) {options : WalkOptions} {file : WalkedFile}
    (member : file ∈ (context.files d options).files) :
    ∃ names, (∀ name ∈ names, IsName name) ∧ file.path = context.root.along names := by
  unfold PluginContext.files walk at member
  split at member
  · cases member
  · split at member
    · rw [List.mem_singleton.mp member]
      exact ⟨[], List.forall_mem_nil _, rfl⟩
    · exact exists_along_of_mem_walkNames tree (List.Subset.refl _) (List.mem_mergeSort.mp member)
    · cases member

/-- The source files are the same, and so are their texts. -/
theorem source? (beside : d.GainsBeside context grown) {file : WalkedFile}
    (member : file ∈ context.sourceFiles d) : file.source? grown = file.source? d := by
  obtain ⟨names, areNames, same⟩ := exists_along_of_mem_files beside.tree (List.mem_of_mem_filter member)
  have read : grown.readLossy file.path = d.readLossy file.path := by
    rw [same]
    exact beside.read (beside.paths.inside names areNames)
  simp only [WalkedFile.source?, read]

theorem header (beside : d.GainsBeside context grown) : context.header grown = context.header d := by
  simp only [PluginContext.header, PluginHeader.read, beside.read beside.paths.mainFile]

/-! ## The readme -/

theorem find? (beside : d.GainsBeside context grown) (inDirectory : context.isSingleFile = false) :
    Readme.find? grown context.directory = Readme.find? d context.directory := by
  have isRoot : context.root = context.directory := by simp [PluginContext.root, inDirectory]
  have candidates (rank : Nat) : Readme.candidates grown context.directory rank =
      Readme.candidates d context.directory rank := by
    unfold Readme.candidates
    rw [← isRoot, locate_congr beside.inside_nil]
    cases located : d.locate context.root with
    | error fault => rfl
    | ok location =>
      have inside := Inside.root located
      dsimp only
      simp only [beside.childNames inside, beside.entry?_join inside]
  simp only [Readme.find?, candidates]

/-- The readme that is found has the same text. -/
theorem readme (beside : d.GainsBeside context grown) (inDirectory : context.isSingleFile = false)
    (found : Readme.find? d context.directory = some p) : Readme.read grown p = Readme.read d p := by
  have isRoot : context.root = context.directory := by simp [PluginContext.root, inDirectory]
  -- the readme is a file of the directory
  have member : ∃ rank, p ∈ Readme.candidates d context.directory rank := by
    rcases List.mem_append.mp (List.mem_of_head? found) with first | second
    · exact ⟨0, first⟩
    · exact ⟨1, second⟩
  obtain ⟨rank, member⟩ := member
  unfold Readme.candidates at member
  rw [← isRoot] at member
  split at member
  · cases member
  · rename_i location located
    obtain ⟨name, child, candidate⟩ := List.mem_filterMap.mp member
    have isName : IsName name := beside.tree.isName (mem_childNames.mp child) name (by simp)
    have joined : context.root.join name = p := by
      split at candidate
      · split at candidate <;> simp_all
      · cases candidate
    simp only [Readme.read, ← joined, beside.read_along (Inside.root located) isName]

end GainsBeside

/-! ## Plugins without links -/

/-- Below a directory without links, names lead to the same places if the new file is elsewhere. -/
theorem followFrom_put_linkFree {more : Nat} (linkFree : d.LinkFree here) (apart : ¬ here <+: location)
    (isName : ∀ name ∈ names, IsName name) :
    (d.put location (.file content executable)).followFrom true more here names =
      d.followFrom true links here names := by
  induction names generalizing here with
  | nil => simp [followFrom]
  | cons name rest inductionHypothesis =>
    obtain ⟨isNameHere, isNameLater⟩ := List.forall_mem_cons.mp isName
    have notIdle : (name == ".") = false ∧ (name == "..") = false := by simpa using isNameHere.2.2
    have apartChild : ¬ here ++ [name] <+: location := fun isPrefix => apart ((List.prefix_append _ _).trans isPrefix)
    have same : Disk.entry? (d.put location (.file content executable)) here = d.entry? here :=
      entry?_put_other fun equal => apart (equal ▸ List.prefix_rfl)
    have sameChild : Disk.entry? (d.put location (.file content executable)) (here ++ [name]) = d.entry? (here ++ [name]) :=
      entry?_put_other fun equal => apartChild (equal ▸ List.prefix_rfl)
    have later := inductionHypothesis (linkFree.below name) apartChild isNameLater
    rw [followFrom, followFrom, same]
    simp only [sameChild, notIdle, Bool.false_eq_true, if_false]
    split
    · split
      · rfl
      · rename_i target isLink
        exact absurd isLink (linkFree [name] target)
      · exact later
    · rfl

/-- A plugin that is there and has no links in it takes no notice of a new file elsewhere. -/
theorem GainsBeside.ofLinkFree {context : PluginContext} {directory mainFile : Location} (tree : d.IsTree)
    (isName : IsName name) (isDirectory : d.entry? directory = some .directory)
    (free : d.entry? (directory ++ [name]) = none) (located : d.locate context.root = .ok here)
    (present : d.locate context.mainFile = .ok mainFile) (linkFree : d.LinkFree here)
    (apart : ¬ here <+: directory ++ [name]) :
    d.GainsBeside context (d.put (directory ++ [name]) (.file content false)) where
  tree := tree
  gained := ⟨directory, name, content, isName, isDirectory, free, rfl⟩
  paths.mainFile := place_put_of_locate free present
  paths.inside names areNames := by
    have same : (d.put (directory ++ [name]) (.file content false)).place true context.root =
        d.place true context.root := place_put_of_locate free located
    by_cases none : names = []
    · subst none
      exact same
    · have given := (place_of_locate located).1
      have locatedToo := (locate_congr same).trans located
      -- behind the path to the plugin, no link is expanded any more
      obtain ⟨left, -, goesOn⟩ := exists_left (followFrom_of_locate located)
      obtain ⟨left', -, goesOn'⟩ := exists_left (followFrom_of_locate locatedToo)
      rw [place_along given areNames none, place_along given areNames none, goesOn true names none,
        goesOn' true names none]
      exact followFrom_put_linkFree linkFree apart areNames

end Disk

end PluginAudit
