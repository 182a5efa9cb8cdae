import PluginAudit.Proofs.Disk.Links

/-!
# What a walk through links reports

A walk ends on every tree, whatever links there are in it.  It reports what it comes to, each link
that leads back as one loop and each link that leads nowhere as one error, and neither keeps it
from a file elsewhere.  What is behind a link that leads back is reported where that leads back to.
-/

namespace PluginAudit

namespace Disk

variable {d : Disk} {options : WalkOptions} {root : Path} {steps front : List String} {met : List (List String)}
  {content : ByteArray}

/-! ## Files behind links -/

/-- Names lead to a file, not too deep and not through a directory with an ignored name.  Every link
on the way is followed, also one that leads back. -/
structure Offers (d : Disk) (options : WalkOptions) (root : Path) (steps : List String) (content : ByteArray) :
    Prop where
  isName : ∀ name ∈ steps, IsName name
  reaches : options.reaches steps.length
  unpruned : ∀ name ∈ steps.dropLast, options.ignores name = false
  isFile : ∃ executable, d.resolve? (root.along steps) = some (.file content executable)

theorem exists_locate_of_resolve? {p : Path} {entry : Entry} (found : d.resolve? p = some entry) :
    ∃ location, d.locate p = .ok location ∧ d.entry? location = some entry := by
  unfold resolve? at found
  split at found
  · rename_i location located
    exact ⟨location, located, found⟩
  · cases found

namespace Offers

/-- Where no link leads back, a walk comes to a file through all links. -/
theorem meets (offers : d.Offers options root steps content) (isRoot : d.isDirectory root)
    (isNew : ∀ front, front <+: steps → front ≠ steps → ¬ d.LeadsBack root front) : d.Meets options root steps := by
  obtain ⟨executable, isFile⟩ := offers.isFile
  obtain ⟨start, atRoot, -⟩ := isDirectory_iff.mp isRoot
  obtain ⟨location, located, found⟩ := exists_locate_of_resolve? isFile
  refine ⟨?_, offers.isName, ?_, offers.reaches, ?_⟩
  · rintro rfl
    have rootIsFile : d.resolve? root = some (.file content executable) := isFile
    simp [isDirectory, rootIsFile] at isRoot
  · exact hasEntry_of_pathExists (by simp [pathExists, isFile])
  · intro front isFront notAll
    obtain ⟨back, rfl⟩ := isFront
    have some : back ≠ [] := by
      rintro rfl
      simp at notAll
    obtain ⟨middle, middleLocated, middleFound⟩ := exists_locate_front atRoot offers.isName some located
    have isDirectory := isDirectory_iff.mpr ⟨middle, middleLocated, middleFound⟩
    refine ⟨isDirectory, isNew front (List.prefix_append front back) notAll, fun name last => offers.unpruned name ?_⟩
    rw [List.dropLast_append_of_ne_nil some]
    exact List.mem_append_left _ (List.mem_of_getLast? last)

/-- A link that leads back can be left out with all that it leads past. -/
theorem shortcut {round rest : List String} (offers : d.Offers options root (front ++ round ++ rest) content)
    (isRoot : d.isDirectory root) (some : rest ≠ [])
    (back : d.locate (root.along (front ++ round)) = d.locate (root.along front)) :
    d.Offers options root (front ++ rest) content ∧
      d.locate (root.along (front ++ rest)) = d.locate (root.along (front ++ round ++ rest)) := by
  obtain ⟨executable, isFile⟩ := offers.isFile
  obtain ⟨start, atRoot, -⟩ := isDirectory_iff.mp isRoot
  obtain ⟨location, located, found⟩ := exists_locate_of_resolve? isFile
  have short := locate_shortcut atRoot offers.isName back located
  refine ⟨⟨fun name member => offers.isName name ?_, ?_, fun name member => offers.unpruned name ?_, executable, ?_⟩,
    short.trans located.symm⟩
  · simp only [List.mem_append] at member ⊢
    tauto
  · exact WalkOptions.reaches_of_le (by simp) offers.reaches
  · rw [List.dropLast_append_of_ne_nil some] at member ⊢
    simp only [List.mem_append] at member ⊢
    tauto
  · simp [resolve?, short, found]

/-- A file that is offered is come to, if only behind fewer links. -/
theorem exists_meets (isRoot : d.isDirectory root) (offers : d.Offers options root steps content) :
    ∃ found, found.Sublist steps ∧ d.locate (root.along found) = d.locate (root.along steps) ∧
      d.Offers options root found content ∧ d.Meets options root found := by
  induction size : steps.length using Nat.strong_induction_on generalizing steps with
  | _ bound inductionHypothesis =>
    by_cases isNew : ∀ front, front <+: steps → front ≠ steps → ¬ d.LeadsBack root front
    · exact ⟨steps, .refl steps, rfl, offers, offers.meets isRoot isNew⟩
    · push Not at isNew
      obtain ⟨_, ⟨rest, rfl⟩, notAll, -, -, front, isFront, notBack, sameAsFront⟩ := isNew
      obtain ⟨round, rfl⟩ := (List.mem_inits front _).mp isFront
      have some : rest ≠ [] := by simpa using notAll
      have positive := List.length_pos_iff.mpr (show round ≠ [] by simpa using notBack)
      obtain ⟨offersShort, same⟩ := offers.shortcut isRoot some sameAsFront.symm
      have shorter : (front ++ rest).length < bound := by
        simp only [List.length_append] at size ⊢
        omega
      obtain ⟨found, isPart, leads, offersFound, meets⟩ := inductionHypothesis _ shorter offersShort rfl
      exact ⟨found, isPart.trans (by simp), leads.trans same, offersFound, meets⟩

end Offers

/-! ## Reports -/

/-- A report of all that a walk comes to below a directory: files and directories in the strict order
of their paths, and how many of the links lead back or nowhere. -/
structure Accounts (d : Disk) (options : WalkOptions) (root : Path) (met : List (List String)) (found : Walked) :
    Prop where
  once : met.Nodup
  mem_met : ∀ steps, steps ∈ met ↔ d.Meets options root steps
  mem_files : ∀ file, file ∈ found.files ↔ ∃ steps ∈ met, ∃ content executable,
    d.resolve? (root.along steps) = some (.file content executable) ∧ file = ⟨root.along steps, content.size⟩
  mem_directories : ∀ path, path ∈ found.directories ↔ ∃ steps ∈ met,
    d.isDirectory (root.along steps) ∧ ¬ d.LeadsBack root steps ∧ path = root.along steps
  filesAscend : found.files.Pairwise fun a b => a.path.less b.path
  directoriesAscend : found.directories.Pairwise fun a b => a.less b
  loops_eq : found.loops = met.countP fun steps => d.LeadsBack root steps
  errors_eq : found.errors = met.countP fun steps => d.Dangles root steps

/-- Different names that are come to are different paths. -/
theorem Meets.components_ne {other : List String} (meets : d.Meets options root steps)
    (meets' : d.Meets options root other) (different : steps ≠ other) :
    (root.along steps).components ≠ (root.along other).components :=
  fun same => different (root.along_injective meets.isName meets'.isName same)

theorem accounts_tally (once : met.Nodup) (mem_met : ∀ steps, steps ∈ met ↔ d.Meets options root steps) :
    d.Accounts options root met (d.tally root met).sorted where
  once := once
  mem_met := mem_met
  mem_files file := by
    rw [Walked.sorted, List.mem_mergeSort, tally, filesAlong, List.mem_filterMap]
    refine exists_congr fun steps => and_congr_right fun _ => ?_
    split
    case h_1 content executable isFile => simp [isFile, @eq_comm _ file]
    case h_2 notFile =>
      constructor
      · intro none
        cases none
      · rintro ⟨content, executable, isFile, -⟩
        exact absurd isFile (notFile content executable)
  mem_directories path := by
    rw [Walked.sorted, List.mem_mergeSort, tally, List.mem_map]
    refine exists_congr fun steps => ?_
    simp only [List.mem_filter, Bool.and_eq_true, Bool.not_eq_true', decide_eq_false_iff_not, and_assoc]
    rw [@eq_comm _ path]
  filesAscend := by
    -- sorting makes the order strict, as no path occurs twice
    apply Path.componentsOrder.pairwise_mergeSort
    apply List.pairwise_map.mpr
    apply List.Pairwise.filterMap _ _ (once.imp_of_mem fun member member' different =>
      ((mem_met _).mp member).components_ne ((mem_met _).mp member') different)
    intro steps other different file isFile file' isFile'
    split at isFile <;> cases isFile
    split at isFile' <;> cases isFile'
    exact different
  directoriesAscend := by
    apply Path.componentsOrder.pairwise_mergeSort
    apply List.pairwise_map.mpr
    apply List.pairwise_map.mpr
    apply (once.filter _).imp_of_mem
    intro steps other member member' different
    have meets := (mem_met steps).mp (List.mem_of_mem_filter member)
    exact meets.components_ne ((mem_met other).mp (List.mem_of_mem_filter member')) different
  loops_eq := rfl
  errors_eq := rfl

theorem accounts_walk (rooted : d.IsRooted) (options : WalkOptions) (isRoot : d.isDirectory root) :
    ∃ met, d.Accounts options root met (d.walk options root) := by
  obtain ⟨here, located, found⟩ := isDirectory_iff.mp isRoot
  have onWay : d.OnWay options root [here] [] := .ofRoot located found
  have isName : ∀ name ∈ d.childNames here, IsName name := fun name member =>
    rooted.isName (mem_childNames.mp member) name (by simp)
  have walks := walks_walkNames rooted.toIsTree options (rooted.unvisited_root here) rfl root (d.childNames here)
  obtain ⟨met, covers, counted⟩ := walks.counts rooted.toIsTree rfl onWay isName (rooted.nodup_childNames here)
  refine ⟨met, ?_⟩
  have report : d.walk options root = (d.tally root met).sorted := by
    simp only [walk, located, found]
    exact congrArg Walked.sorted counted
  rw [report]
  apply accounts_tally covers.once
  intro steps
  rw [covers.mem_iff]
  constructor
  · exact And.left
  · intro meets
    obtain ⟨name, rest, rfl⟩ := List.exists_cons_of_ne_nil meets.given
    have isFront : [name] <+: name :: rest := ⟨rest, rfl⟩
    have joined := hasEntry_join located found (meets.isName name (by simp))
    exact ⟨meets, name, mem_childNames.mpr (joined.symm.trans (meets.hasEntry_front isFront)), isFront⟩

/-- A link that leads back or nowhere is not entered. -/
theorem Enters.not_stops (enters : d.Enters options root steps) :
    ¬ (d.LeadsBack root steps ∨ d.Dangles root steps) := by
  rintro (back | dangles)
  · exact enters.isNew back
  · have pathExists := pathExists_of_isDirectory enters.isDirectory
    simp [dangles.2] at pathExists

theorem walk_of_not_pathExists (rooted : d.IsRooted) (nothing : d.pathExists root = false) :
    d.walk options root = { errors := 1 } := by
  unfold walk
  cases located : d.locate root with
  | error fault => rfl
  | ok location =>
    obtain ⟨entry, found, -⟩ := settled_of_locate rooted.toIsTree located
    simp [pathExists, resolve?, located, found] at nothing

theorem walk_of_isFile {executable : Bool} (isFile : d.resolve? root = some (.file content executable)) :
    d.walk options root = { files := [⟨root, content.size⟩] } := by
  obtain ⟨location, located, found⟩ := exists_locate_of_resolve? isFile
  simp only [walk, located, found]

/-- A walk ends on every tree, and the steps of a walker show it: they lead to one that has found what
the walk reports, and no walker goes on without end.  A root that leads nowhere is one error, and a
file is the only one of its walk.  Below a directory the walk reports all that it comes to, each link
that leads back as one loop and each that leads nowhere as one error, and comes to nothing behind
these.  A file that names lead to without leading back is reported under these names, and every
other file that names lead to under some of them, which lead to it as well. -/
theorem walk_ends (rooted : d.IsRooted) (options : WalkOptions) (root : Path) :
    (∃ found, Walker.Leads d options (.ofRoot d root) ⟨[], found⟩ ∧ d.walk options root = found.sorted) ∧
    (∀ trace : Nat → Walker, trace 0 = .ofRoot d root →
      ∃ n, (trace n).step d options ≠ some (trace (n + 1))) ∧
    (d.pathExists root = false → d.walk options root = { errors := 1 }) ∧
    (∀ content executable, d.resolve? root = some (.file content executable) →
      d.walk options root = { files := [⟨root, content.size⟩] }) ∧
    (d.isDirectory root → ∃ met, d.Accounts options root met (d.walk options root) ∧
      (∀ steps ∈ met, d.LeadsBack root steps ∨ d.Dangles root steps →
        ∀ other ∈ met, steps <+: other → other = steps) ∧
      ∀ steps content, d.Offers options root steps content →
        ((∀ front, front <+: steps → ¬ d.LeadsBack root front) →
          ⟨root.along steps, content.size⟩ ∈ (d.walk options root).files) ∧
        ∃ others, others.Sublist steps ∧ d.locate (root.along others) = d.locate (root.along steps) ∧
          ⟨root.along others, content.size⟩ ∈ (d.walk options root).files) := by
  obtain ⟨found, leads, reported⟩ := exists_leads_end rooted options root
  refine ⟨⟨found, leads, reported⟩, leads.not_endless rfl, walk_of_not_pathExists rooted,
    fun _ _ isFile => walk_of_isFile isFile, fun isRoot => ?_⟩
  obtain ⟨met, accounts⟩ := accounts_walk rooted options isRoot
  have isReported {steps : List String} {content : ByteArray} (offers : d.Offers options root steps content)
      (meets : d.Meets options root steps) : ⟨root.along steps, content.size⟩ ∈ (d.walk options root).files := by
    obtain ⟨executable, isFile⟩ := offers.isFile
    exact (accounts.mem_files _).mpr ⟨steps, (accounts.mem_met steps).mpr meets, content, executable, isFile, rfl⟩
  refine ⟨met, accounts, fun steps _ stops other member isFront => ?_,
    fun steps content offers => ⟨fun isNew => ?_, ?_⟩⟩
  · by_contra different
    have meets := (accounts.mem_met other).mp member
    exact (meets.enters steps isFront (Ne.symm different)).not_stops stops
  · exact isReported offers (offers.meets isRoot fun front isFront _ => isNew front isFront)
  · obtain ⟨others, isPart, same, offersOthers, meets⟩ := offers.exists_meets isRoot
    exact ⟨others, isPart, same, isReported offersOthers meets⟩

/-- A directory with a link to itself and a link that leads nowhere. -/
def loopDisk : Disk where
  entries :=
    [(["form"], .directory), (["form", "form.php"], .file "<?php".toUTF8 false), (["form", "gone"], .link "nowhere"),
      (["form", "home"], .link "../form")]
  workingDirectory := []

/-- Where its paths lead. -/
theorem locate_loopDisk :
    loopDisk.locate ⟨"form"⟩ = .ok ["form"] ∧ loopDisk.locate ⟨"form/home"⟩ = .ok ["form"] ∧
      loopDisk.locate ⟨"form/gone"⟩ = .error .missing ∧
      loopDisk.locate ⟨"form/home/home/form.php"⟩ = .ok ["form", "form.php"] := by
  have start : loopDisk.workingDirectory = [] := rfl
  have entries : loopDisk.entry? [] = some .directory ∧ loopDisk.entry? ["form"] = some .directory ∧
      loopDisk.entry? ["form", "form.php"] = some (.file "<?php".toUTF8 false) ∧
      loopDisk.entry? ["form", "gone"] = some (.link "nowhere") ∧ loopDisk.entry? ["form", "nowhere"] = none ∧
      loopDisk.entry? ["form", "home"] = some (.link "../form") := by decide +kernel
  have steps : Disk.steps "form" = ["form"] ∧ Disk.steps "form/home" = ["form", "home"] ∧
      Disk.steps "form/gone" = ["form", "gone"] ∧
      Disk.steps "form/home/home/form.php" = ["form", "home", "home", "form.php"] ∧
      Disk.steps "../form" = ["..", "form"] ∧ Disk.steps "nowhere" = ["nowhere"] := by decide +kernel
  simp [locate, place, followFrom, Path.isAbsolute, maximalLinks, start, entries, steps]

theorem walk_ends_loopDisk :
    loopDisk.IsRooted ∧
    (∃ found, Walker.Leads loopDisk {} (.ofRoot loopDisk ⟨"form"⟩) ⟨[], found⟩ ∧
      loopDisk.walk {} ⟨"form"⟩ = found.sorted) ∧
    loopDisk.LeadsBack ⟨"form"⟩ ["home"] ∧ 0 < (loopDisk.walk {} ⟨"form"⟩).loops ∧
    loopDisk.Dangles ⟨"form"⟩ ["gone"] ∧ 0 < (loopDisk.walk {} ⟨"form"⟩).errors ∧
    loopDisk.Offers {} ⟨"form"⟩ ["home", "home", "form.php"] "<?php".toUTF8 ∧
    ∃ others, ⟨(Path.mk "form").along others, 5⟩ ∈ (loopDisk.walk {} ⟨"form"⟩).files := by
  have rooted : loopDisk.IsRooted := by decide +kernel
  obtain ⟨ends, -, -, -, reports⟩ := walk_ends rooted {} ⟨"form"⟩
  obtain ⟨atRoot, atHome, atGone, atFile⟩ := locate_loopDisk
  have paths : (Path.mk "form").along ["home"] = ⟨"form/home"⟩ ∧
      (Path.mk "form").along ["gone"] = ⟨"form/gone"⟩ ∧
      (Path.mk "form").along ["home", "home", "form.php"] = ⟨"form/home/home/form.php"⟩ := by decide +kernel
  obtain ⟨homePath, gonePath, filePath⟩ := paths
  have names : IsName "home" ∧ IsName "gone" := by decide +kernel
  have directory : loopDisk.entry? ["form"] = some .directory := by decide +kernel
  have isRoot : loopDisk.isDirectory ⟨"form"⟩ := isDirectory_iff.mpr ⟨["form"], atRoot, directory⟩
  obtain ⟨met, accounts, -, offered⟩ := reports isRoot
  have onWay : loopDisk.OnWay {} ⟨"form"⟩ [["form"]] [] := .ofRoot atRoot directory
  have reaches : WalkOptions.reaches {} [["form"]].length := by decide
  have isMet (name : String) (isName : IsName name) (found : (loopDisk.entry? ["form", name]).isSome) :
      [name] ∈ met := by
    have present := hasEntry_join atRoot directory isName
    rw [accounts.mem_met]
    exact onWay.meets isName (present.trans found) reaches
  have isLink (name : String) (isName : IsName name) (found : (loopDisk.entry? ["form", name]).any Entry.isLink) :
      loopDisk.isLink ((Path.mk "form").along [name]) := (isLink_join atRoot directory isName).trans found
  have back : loopDisk.LeadsBack ⟨"form"⟩ ["home"] := by
    have isDirectory := isDirectory_iff.mpr ⟨["form"], homePath ▸ atHome, directory⟩
    refine ⟨isLink _ names.1 (by decide +kernel), isDirectory, [], by simp, by simp, ?_⟩
    rw [homePath, atHome]
    exact atRoot
  have dangles : loopDisk.Dangles ⟨"form"⟩ ["gone"] := by
    refine ⟨isLink _ names.2 (by decide +kernel), ?_⟩
    simp [gonePath, pathExists, resolve?, atGone]
  have offers : loopDisk.Offers {} ⟨"form"⟩ ["home", "home", "form.php"] "<?php".toUTF8 := by
    refine ⟨by decide +kernel, by decide, by decide +kernel, false, ?_⟩
    simp only [filePath, resolve?, atFile]
    decide +kernel
  refine ⟨rooted, ends, back, ?_, dangles, ?_, offers, ?_⟩
  · rw [accounts.loops_eq, List.countP_pos_iff]
    exact ⟨["home"], isMet "home" names.1 (by decide +kernel), by simpa using back⟩
  · rw [accounts.errors_eq, List.countP_pos_iff]
    exact ⟨["gone"], isMet "gone" names.2 (by decide +kernel), by simpa using dangles⟩
  · obtain ⟨-, others, -, -, member⟩ := offered _ _ offers
    exact ⟨others, member⟩

end Disk

end PluginAudit
