import PluginAudit.Proofs.Disk.Links
import PluginAudit.Proofs.Path.Ancestors

/-!
# Where the configuration is found

The configuration is that of the nearest directory, from a start upwards, that has one, and there
is none if a repository lies below that directory.  What makes a directory a repository is an
entry for it, be it a file or a directory, but not a link that leads nowhere.
-/

namespace PluginAudit

namespace Config

variable {disk : Disk} {bounds : Path → Prop} {chain : Nat → Option Path} {answer other : Option Path}

/-- A directory has a configuration, which is a file. -/
def HoldsFile (disk : Disk) (directory : Path) : Prop := disk.isFile (directory.join fileName)

/-- A directory has the entry of a repository, be it a link that leads nowhere. -/
def HasMark (disk : Disk) (directory : Path) : Prop := disk.hasEntry (directory.join ".git")

def IsRepository (disk : Disk) (directory : Path) : Prop := HasMark disk directory ∧ ¬ disk.Dangles directory [".git"]

theorem isRepository_iff {directory : Path} : IsRepository disk directory ↔ disk.pathExists (directory.join ".git") :=
  (Disk.pathExists_join_iff (by decide) directory).symm

/-! ## What a chain of directories comes to -/

/-- What is found in a chain of directories, from the inside out, that ends with one that bounds it. -/
inductive Finds (disk : Disk) (bounds : Path → Prop) (chain : Nat → Option Path) : Option Path → Prop
  /-- The configuration of the nearest directory that has one, with no bound below it. -/
  | nearest {n : Nat} {directory : Path} : chain n = some directory → HoldsFile disk directory →
      (∀ m < n, ∀ inner, chain m = some inner → ¬ HoldsFile disk inner ∧ ¬ bounds inner) →
      Finds disk bounds chain (some (directory.join fileName))
  /-- There is a bound below each directory that has one. -/
  | nothing : (∀ n directory, chain n = some directory → HoldsFile disk directory →
      ∃ m < n, ∃ inner, chain m = some inner ∧ bounds inner) → Finds disk bounds chain none

theorem Finds.unique (finds : Finds disk bounds chain answer) (also : Finds disk bounds chain other) :
    answer = other := by
  cases finds with
  | @nearest n directory here holds below =>
    cases also with
    | @nearest n' directory' here' holds' below' =>
      obtain earlier | rfl | later := Nat.lt_trichotomy n n'
      · exact absurd holds (below' n earlier directory here).1
      · rw [Option.some.inj (here.symm.trans here')]
      · exact absurd holds' (below n' later directory' here').1
    | nothing bounded =>
      obtain ⟨m, before, inner, there, bound⟩ := bounded n directory here holds
      exact absurd bound (below m before inner there).2
  | nothing bounded =>
    cases also with
    | @nearest n directory here holds below =>
      obtain ⟨m, before, inner, there, bound⟩ := bounded n directory here holds
      exact absurd bound (below m before inner there).2
    | nothing _ => rfl

/-- A directory with a configuration is searched, whether it bounds the chain or not. -/
theorem Finds.here {start : Path} (first : chain 0 = some start) (holds : HoldsFile disk start) :
    Finds disk bounds chain (some (start.join fileName)) :=
  .nearest first holds fun _ before => absurd before (Nat.not_lt_zero _)

/-- What is found behind a directory that neither has a configuration nor bounds the chain. -/
theorem Finds.further {start : Path} (first : chain 0 = some start) (holds : ¬ HoldsFile disk start)
    (leadsOn : ¬ bounds start) (finds : Finds disk bounds (fun n => chain (n + 1)) answer) : Finds disk bounds chain answer := by
  cases finds with
  | @nearest n directory here holdsThere below =>
    refine .nearest here holdsThere fun m before inner there => ?_
    cases m with
    | zero =>
      obtain rfl := Option.some.inj (first.symm.trans there)
      exact ⟨holds, leadsOn⟩
    | succ m => exact below m (Nat.lt_of_succ_lt_succ before) inner there
  | nothing bounded =>
    refine .nothing fun n directory here holdsThere => ?_
    cases n with
    | zero =>
      obtain rfl := Option.some.inj (first.symm.trans here)
      exact absurd holdsThere holds
    | succ n =>
      obtain ⟨m, before, inner, there, bound⟩ := bounded n directory here holdsThere
      exact ⟨m + 1, Nat.succ_lt_succ before, inner, there, bound⟩

/-- Nothing is found behind a directory without configuration that bounds the chain. -/
theorem Finds.bounded {start : Path} (first : chain 0 = some start) (holds : ¬ HoldsFile disk start)
    (bound : bounds start) : Finds disk bounds chain none := by
  refine .nothing fun n directory here holdsThere => ?_
  cases n with
  | zero =>
    obtain rfl := Option.some.inj (first.symm.trans here)
    exact absurd holdsThere holds
  | succ n => exact ⟨0, Nat.succ_pos n, start, first, bound⟩

theorem finds_findIn (disk : Disk) (directories : List Path) :
    Finds disk (IsRepository disk) (directories[·]?) (findIn disk directories) := by
  induction directories with
  | nil => exact .nothing fun _ _ here => by cases here
  | cons directory rest inductionHypothesis =>
    rw [findIn]
    split_ifs with holds bound
    · exact .here rfl holds
    · exact .bounded rfl holds (isRepository_iff.mpr bound)
    · exact .further rfl holds (mt isRepository_iff.mp bound) inductionHypothesis

theorem finds_find? (disk : Disk) (start : Path) : Finds disk (IsRepository disk) start.above (find? disk start) := by
  have found := finds_findIn disk (ancestors start)
  rwa [funext (getElem?_ancestors start)] at found

theorem isFile_of_finds {file : Path} (finds : Finds disk bounds chain (some file)) : disk.isFile file := by
  cases finds with
  | nearest here holds below => exact holds

/-- What a search from a start upwards comes to. -/
structure SearchesUpward (disk : Disk) (start : Path) : Prop where
  /-- The nearest configuration is found, if there is no repository below it. -/
  finds : ∀ answer, find? disk start = answer ↔ Finds disk (IsRepository disk) start.above answer
  /-- The directories that are searched stand for the starts of the components. -/
  lexical : ∀ n directory, start.above n = some directory →
    ∃ lost, start.components = directory.components ++ lost ∧ lost.length = n
  /-- Each start of the components is searched that keeps the root, if there is one. -/
  fronts : ∀ front lost, start.components = front ++ lost → .root ∉ lost →
    ∃ directory, start.above lost.length = some directory ∧ directory.components = front
  ends : ∀ n, start.components.length < n → start.above n = none
  /-- A repository with a configuration is searched itself. -/
  both : IsRepository disk start → HoldsFile disk start → find? disk start = some (start.join fileName)
  /-- Something that is named like a configuration but is a directory is none. -/
  directories : ∀ file, disk.isDirectory file → find? disk start ≠ some file

theorem find?_eq_iff (disk : Disk) (start : Path) (answer : Option Path) :
    find? disk start = answer ↔ Finds disk (IsRepository disk) start.above answer := by
  constructor
  · rintro rfl
    exact finds_find? disk start
  · exact (finds_find? disk start).unique

/-- On every disk and from every start, the nearest configuration is found that has no repository
below it. -/
theorem searchesUpward (disk : Disk) (start : Path) : SearchesUpward disk start where
  finds := find?_eq_iff disk start
  lexical _ _ := Path.components_above
  fronts _ _ := Path.exists_above
  ends _ := Path.above_eq_none
  both _ holds := (find?_eq_iff disk start _).mpr (.here rfl holds)
  directories file isDirectory found := by
    have isFile := isFile_of_finds ((find?_eq_iff disk start _).mp found)
    rw [Disk.isDirectory, beq_iff_eq] at isDirectory
    simp [Disk.isFile, isDirectory] at isFile

/-- A plugin whose entry for a repository is a link that leads nowhere, below a configuration. -/
def orphanDisk : Disk where
  entries :=
    [(["form"], .directory), (["form", ".git"], .link "nowhere"), (["plugin-check.toml"], .file "".toUTF8 false)]
  workingDirectory := []

/-- Where the paths of its directories lead. -/
theorem place_orphanDisk :
    orphanDisk.isFile ⟨"form/plugin-check.toml"⟩ = false ∧ orphanDisk.isFile ⟨"plugin-check.toml"⟩ ∧
      orphanDisk.hasEntry ⟨"form/.git"⟩ ∧ orphanDisk.pathExists ⟨"form/.git"⟩ = false := by
  have start : orphanDisk.workingDirectory = [] := rfl
  have entries : orphanDisk.entry? [] = some .directory ∧ orphanDisk.entry? ["form"] = some .directory ∧
      orphanDisk.entry? ["form", ".git"] = some (.link "nowhere") ∧ orphanDisk.entry? ["form", "nowhere"] = none ∧
      orphanDisk.entry? ["form", "plugin-check.toml"] = none ∧
      orphanDisk.entry? ["plugin-check.toml"] = some (.file "".toUTF8 false) := by decide +kernel
  have steps : Disk.steps "form/plugin-check.toml" = ["form", "plugin-check.toml"] ∧
      Disk.steps "plugin-check.toml" = ["plugin-check.toml"] ∧ Disk.steps "form/.git" = ["form", ".git"] ∧
      Disk.steps "nowhere" = ["nowhere"] := by decide +kernel
  simp [Disk.isFile, Disk.pathExists, Disk.hasEntry, Disk.resolve?, Disk.locate, Disk.place, Disk.followFrom,
    Path.isAbsolute, Disk.maximalLinks, start, entries, steps]

/-- The search goes on where the entry for a repository leads nowhere. -/
theorem found_beyond_mark :
    find? orphanDisk ⟨"form"⟩ = some ⟨"plugin-check.toml"⟩ ∧
      ¬ Finds orphanDisk (HasMark orphanDisk) (Path.mk "form").above (find? orphanDisk ⟨"form"⟩) := by
  obtain ⟨noFile, file, mark, nowhere⟩ := place_orphanDisk
  have paths : (Path.mk "form").join fileName = ⟨"form/plugin-check.toml"⟩ ∧
      (Path.mk "").join fileName = ⟨"plugin-check.toml"⟩ ∧ (Path.mk "form").join ".git" = ⟨"form/.git"⟩ := by
    decide +kernel
  have found : find? orphanDisk ⟨"form"⟩ = some ⟨"plugin-check.toml"⟩ := by
    have chain : ancestors ⟨"form"⟩ = [⟨"form"⟩, ⟨""⟩] := by decide +kernel
    simp [find?, chain, findIn, paths, noFile, file, nowhere]
  have ended : Finds orphanDisk (HasMark orphanDisk) (Path.mk "form").above none :=
    .bounded rfl (by simp [HoldsFile, paths, noFile]) (by simpa [HasMark, paths] using mark)
  refine ⟨found, fun finds => ?_⟩
  rw [found] at finds
  cases finds.unique ended

end Config

end PluginAudit
