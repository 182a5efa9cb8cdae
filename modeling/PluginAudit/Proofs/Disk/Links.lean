import Mathlib.Data.List.Infix
import PluginAudit.Proofs.Disk.Stepping

/-!
# Walks through links

A walk comes to what has a name in a directory that it entered.  It enters a directory through a
link too, unless the way to it leads through that directory.  What is found is counted from all
that a walk comes to: files, directories, links that lead back and links that lead nowhere.
-/

namespace PluginAudit

namespace Disk

variable {d : Disk} {options : WalkOptions} {root : Path} {here location : Location} {way above : List Location}
  {name : String} {names steps front : List String} {trail : List (List String)} {found : Walked}

/-! ## What a walk comes to -/

/-- A link leads back to a directory that the way to it leads through. -/
def LeadsBack (d : Disk) (root : Path) (steps : List String) : Prop :=
  d.isLink (root.along steps) ∧ d.isDirectory (root.along steps) ∧
    ∃ front ∈ steps.inits, front ≠ steps ∧ d.locate (root.along front) = d.locate (root.along steps)

instance : Decidable (d.LeadsBack root steps) := inferInstanceAs (Decidable (_ ∧ _ ∧ ∃ front ∈ steps.inits, _))

/-- A link leads nowhere. -/
def Dangles (d : Disk) (root : Path) (steps : List String) : Prop :=
  d.isLink (root.along steps) ∧ d.pathExists (root.along steps) = false

instance : Decidable (d.Dangles root steps) := inferInstanceAs (Decidable (_ ∧ _))

/-- A directory that a walk enters when it comes to it, be it through a link. -/
structure Enters (d : Disk) (options : WalkOptions) (root : Path) (steps : List String) : Prop where
  isDirectory : d.isDirectory (root.along steps)
  isNew : ¬ d.LeadsBack root steps
  kept : ∀ name, steps.getLast? = some name → options.ignores name = false

/-- Names lead from a root through directories that a walk enters to an entry that is not too deep. -/
structure Meets (d : Disk) (options : WalkOptions) (root : Path) (steps : List String) : Prop where
  given : steps ≠ []
  isName : ∀ name ∈ steps, IsName name
  present : d.hasEntry (root.along steps)
  reaches : options.reaches steps.length
  enters : ∀ front, front <+: steps → front ≠ steps → d.Enters options root front

theorem isDirectory_iff {p : Path} :
    d.isDirectory p ↔ ∃ location, d.locate p = .ok location ∧ d.entry? location = some .directory := by
  rw [isDirectory, resolve?]
  cases d.locate p <;> simp

theorem pathExists_of_isDirectory {p : Path} (isDirectory : d.isDirectory p) : d.pathExists p := by
  obtain ⟨location, located, found⟩ := isDirectory_iff.mp isDirectory
  simp [pathExists, resolve?, located, found]

theorem hasEntry_of_pathExists {p : Path} (pathExists : d.pathExists p) : d.hasEntry p := by
  by_contra absent
  simp [pathExists_of_not_hasEntry (by simpa using absent)] at pathExists

/-- An entry under a name is something that the path leads to, unless it is a link that leads nowhere. -/
theorem pathExists_join_iff (isName : IsName name) (p : Path) :
    d.pathExists (p.join name) ↔ d.hasEntry (p.join name) ∧ ¬ d.Dangles p [name] := by
  constructor
  · intro pathExists
    exact ⟨hasEntry_of_pathExists pathExists, fun dangles => Bool.eq_false_iff.mp dangles.2 pathExists⟩
  · rintro ⟨present, notDangling⟩
    by_contra nowhere
    have notLink : ¬ d.isLink (p.join name) := fun isLink => notDangling ⟨isLink, Bool.eq_false_iff.mpr nowhere⟩
    obtain ⟨directory, left, isDirectory, places⟩ := exists_directory_of_hasEntry isName present
    simp only [isLink, hasEntry, places, followFrom_name isDirectory isName] at notLink present
    obtain ⟨entry, found⟩ := Option.isSome_iff_exists.mp present
    have located : d.locate (p.join name) = .ok (directory ++ [name]) := by
      rw [locate_eq_ok_iff, places, followFrom_entry isDirectory isName found (by simpa [found] using notLink)]
    simp [pathExists, resolve?, located, found] at nowhere

/-- There is an entry all the way. -/
theorem Meets.hasEntry_front (meets : d.Meets options root steps) (isFront : front <+: steps) :
    d.hasEntry (root.along front) := by
  by_cases same : front = steps
  · rw [same]
    exact meets.present
  · exact hasEntry_of_pathExists (pathExists_of_isDirectory (meets.enters front isFront same).isDirectory)

/-! ## The way of a walk -/

/-- A way has the directories that names lead through, all of them entered. -/
structure OnWay (d : Disk) (options : WalkOptions) (root : Path) (way : List Location) (front : List String) :
    Prop where
  isName : ∀ name ∈ front, IsName name
  enters : ∀ before, before <+: front → d.Enters options root before
  length_eq : way.length = front.length + 1
  innermost : ∀ here, way.head? = some here → d.locate (root.along front) = .ok here
  mem_iff : ∀ location,
    location ∈ way ↔ ∃ before, before <+: front ∧ d.locate (root.along before) = .ok location

/-- What is met at names tells what is there. -/
def Describes (d : Disk) (root : Path) (steps : List String) : Met → Prop
  | .nothing => d.hasEntry (root.along steps) = false
  | .fault fault =>
      d.hasEntry (root.along steps) ∧ if fault.isLoop then d.LeadsBack root steps else d.Dangles root steps
  | .file size => ∃ content executable,
      d.resolve? (root.along steps) = some (.file content executable) ∧ size = content.size
  | .directory location => d.locate (root.along steps) = .ok location ∧ d.entry? location = some .directory ∧
      ¬ d.LeadsBack root steps

namespace OnWay

theorem located (onWay : d.OnWay options root (here :: above) front) : d.locate (root.along front) = .ok here :=
  onWay.innermost here rfl

theorem isDirectory (onWay : d.OnWay options root (here :: above) front) : d.entry? here = some .directory := by
  obtain ⟨other, located, found⟩ := isDirectory_iff.mp (onWay.enters front (List.prefix_refl front)).isDirectory
  rw [onWay.located] at located
  exact Except.ok.inj located ▸ found

/-- A link leads back just if it leads to a directory on the way. -/
theorem leadsBack_iff (onWay : d.OnWay options root way front) (isLink : d.isLink (root.along (front ++ [name])))
    (located : d.locate (root.along (front ++ [name])) = .ok location)
    (isDirectory : d.entry? location = some .directory) : d.LeadsBack root (front ++ [name]) ↔ location ∈ way := by
  have isThere : d.isDirectory (root.along (front ++ [name])) :=
    isDirectory_iff.mpr ⟨location, located, isDirectory⟩
  rw [onWay.mem_iff, LeadsBack]
  simp only [isLink, isThere, true_and, List.mem_inits, located]
  refine exists_congr fun before => ?_
  rw [← and_assoc]
  refine and_congr_left fun _ => ?_
  rw [List.prefix_concat_iff]
  constructor
  · rintro ⟨same | isFront, notAll⟩
    · exact absurd same notAll
    · exact isFront
  · intro isFront
    refine ⟨.inr isFront, ?_⟩
    rintro rfl
    simpa using isFront.length_le

theorem describes_meet (onWay : d.OnWay options root (here :: above) front) (tree : d.IsTree) (isName : IsName name) :
    d.Describes root (front ++ [name]) (d.meet (here :: above) (here ++ [name]) (root.along (front ++ [name]))) := by
  have located := onWay.located
  have isDirectory := onWay.isDirectory
  have hasEntry := hasEntry_join located isDirectory isName
  have isLink := isLink_join located isDirectory isName
  have place {entry : Entry} (found : d.entry? (here ++ [name]) = some entry) :=
    locate_join located isDirectory isName found
  rw [← along_concat] at hasEntry isLink place
  cases found : d.entry? (here ++ [name]) with
  | none =>
    rw [meet_absent found]
    simpa [Describes, found] using hasEntry
  | some entry =>
    rw [found] at hasEntry isLink
    cases entry with
    | file content executable =>
      rw [meet_file found]
      exact ⟨content, executable, by simp [resolve?, place found rfl, found], rfl⟩
    | directory =>
      rw [meet_directory found]
      refine ⟨place found rfl, found, fun back => ?_⟩
      simpa [isLink, Entry.isLink] using back.1
    | link text =>
      cases target : d.locate (root.along (front ++ [name])) with
      | error fault =>
        rw [meet_unresolved found target]
        exact ⟨hasEntry, isLink, by simp [pathExists, resolve?, target]⟩
      | ok location =>
        obtain ⟨entry, there, notLink⟩ := settled_of_locate tree target
        cases entry with
        | link text => cases notLink
        | file content executable =>
          rw [meet_linkedFile found target there]
          exact ⟨content, executable, by simp [resolve?, target, there], rfl⟩
        | directory =>
          have back := onWay.leadsBack_iff isLink target there
          by_cases visited : location ∈ here :: above
          · rw [meet_loop found target there visited]
            exact ⟨hasEntry, back.mpr visited⟩
          · rw [meet_linkedDirectory found target there visited]
            exact ⟨target, there, mt back.mp visited⟩

/-- The way of a walk that has not entered a directory yet. -/
theorem ofRoot (located : d.locate root = .ok here) (isDirectory : d.entry? here = some .directory) :
    d.OnWay options root [here] [] where
  isName := by simp
  enters := by
    simp only [List.prefix_nil, forall_eq]
    exact ⟨isDirectory_iff.mpr ⟨here, located, isDirectory⟩, by simp [LeadsBack], by simp⟩
  length_eq := rfl
  innermost := by simpa [Path.along] using located
  mem_iff := by simp [Path.along, located, eq_comm]

/-- The way into a directory that is entered. -/
theorem cons (onWay : d.OnWay options root way front) (isName : IsName name)
    (enters : d.Enters options root (front ++ [name]))
    (located : d.locate (root.along (front ++ [name])) = .ok location) :
    d.OnWay options root (location :: way) (front ++ [name]) where
  isName := by
    simp only [List.mem_append, List.mem_singleton]
    rintro other (earlier | rfl)
    · exact onWay.isName other earlier
    · exact isName
  enters before isFront := by
    rcases List.prefix_concat_iff.mp isFront with rfl | isFront
    · exact enters
    · exact onWay.enters before isFront
  length_eq := by simp [onWay.length_eq]
  innermost here head := by
    cases head
    exact located
  mem_iff other := by
    rw [List.mem_cons, onWay.mem_iff]
    simp only [List.prefix_concat_iff, or_and_right, exists_or, exists_eq_left, located, Except.ok.injEq]
    rw [@eq_comm _ other]

/-- What is there under a name of the innermost directory is come to. -/
theorem meets (onWay : d.OnWay options root way front) (isName : IsName name)
    (present : d.hasEntry (root.along (front ++ [name]))) (reaches : options.reaches way.length) :
    d.Meets options root (front ++ [name]) where
  given := by simp
  isName := by
    simp only [List.mem_append, List.mem_singleton]
    rintro other (earlier | rfl)
    · exact onWay.isName other earlier
    · exact isName
  present := present
  reaches := by simpa [onWay.length_eq] using reaches
  enters before isFront notAll := by
    rcases List.prefix_concat_iff.mp isFront with rfl | isFront
    · exact absurd rfl notAll
    · exact onWay.enters before isFront

end OnWay

/-! ## The names of a walk -/

/-- All that is come to under names of a directory, each once. -/
structure Covers (d : Disk) (options : WalkOptions) (root : Path) (front names : List String)
    (trail : List (List String)) : Prop where
  once : trail.Nodup
  mem_iff : ∀ steps, steps ∈ trail ↔ d.Meets options root steps ∧ ∃ name ∈ names, front ++ [name] <+: steps

namespace Covers

theorem nil : d.Covers options root front [] [] := ⟨.nil, by simp⟩

theorem beyond (tooDeep : options.reaches (front.length + 1) = false) : d.Covers options root front names [] where
  once := .nil
  mem_iff steps := by
    constructor
    · intro member
      cases member
    · intro ⟨meets, _, _, isFront⟩
      have deep := isFront.length_le
      rw [List.length_append, List.length_singleton] at deep
      simp [WalkOptions.reaches_of_le deep meets.reaches] at tooDeep

theorem cons {first : List (List String)} (own : d.Covers options root front [name] first)
    (later : d.Covers options root front names trail) (fresh : name ∉ names) :
    d.Covers options root front (name :: names) (first ++ trail) where
  once := by
    apply List.nodup_append.mpr
    refine ⟨own.once, later.once, fun steps here other there same => ?_⟩
    subst same
    obtain ⟨-, first, isFirst, isFront⟩ := (own.mem_iff steps).mp here
    obtain ⟨-, second, isLater, isFront'⟩ := (later.mem_iff steps).mp there
    -- the name behind the front tells the two apart
    have same := (List.prefix_of_prefix_length_le isFront isFront' (by simp)).eq_of_length (by simp)
    obtain rfl : first = second := by simpa using same
    exact fresh (List.mem_singleton.mp isFirst ▸ isLater)
  mem_iff steps := by
    rw [List.mem_append, own.mem_iff, later.mem_iff, ← and_or_left]
    simp

theorem ofName (once : trail.Nodup)
    (mem_iff : ∀ steps, steps ∈ trail ↔ d.Meets options root steps ∧ front ++ [name] <+: steps) :
    d.Covers options root front [name] trail :=
  ⟨once, by simpa using mem_iff⟩

/-- Nothing is come to where there is nothing. -/
theorem nothing (absent : d.hasEntry (root.along (front ++ [name])) = false) :
    d.Covers options root front [name] [] := by
  refine ofName .nil fun steps => ?_
  constructor
  · intro member
    cases member
  · intro ⟨meets, isFront⟩
    have present := meets.hasEntry_front isFront
    simp [absent] at present

/-- What is not entered is the only one under its name. -/
theorem leaf (meets : d.Meets options root (front ++ [name])) (stops : ¬ d.Enters options root (front ++ [name])) :
    d.Covers options root front [name] [front ++ [name]] := by
  refine ofName (List.nodup_singleton _) fun steps => ?_
  rw [List.mem_singleton]
  constructor
  · rintro rfl
    exact ⟨meets, List.prefix_refl _⟩
  · intro ⟨further, isFront⟩
    by_contra different
    exact stops (further.enters _ isFront (Ne.symm different))

/-- Under the name of a directory that is entered are the directory and what is in it. -/
theorem below (meets : d.Meets options root (front ++ [name]))
    (located : d.locate (root.along (front ++ [name])) = .ok location)
    (isDirectory : d.entry? location = some .directory)
    (inside : d.Covers options root (front ++ [name]) (d.childNames location) trail) :
    d.Covers options root front [name] ((front ++ [name]) :: trail) := by
  refine ofName (List.nodup_cons.mpr ⟨fun member => ?_, inside.once⟩) fun steps => ?_
  · obtain ⟨-, next, -, isFront⟩ := (inside.mem_iff _).mp member
    simpa using isFront.length_le
  · rw [List.mem_cons, inside.mem_iff]
    constructor
    · rintro (rfl | ⟨further, next, -, isFront⟩)
      · exact ⟨meets, List.prefix_refl _⟩
      · exact ⟨further, (List.prefix_append _ _).trans isFront⟩
    · intro ⟨further, rest, split⟩
      subst split
      cases rest with
      | nil => simp
      | cons next others =>
        have isFront : front ++ [name] ++ [next] <+: front ++ [name] ++ next :: others := ⟨others, by simp⟩
        refine .inr ⟨further, next, ?_, isFront⟩
        -- the next name is one of the directory, as there is an entry under it
        have present := further.hasEntry_front isFront
        rw [along_concat, hasEntry_join located isDirectory (further.isName next (by simp))] at present
        exact mem_childNames.mpr present

end Covers

/-! ## What is counted -/

/-- The files that names lead to. -/
def filesAlong (d : Disk) (root : Path) (trail : List (List String)) : List WalkedFile :=
  trail.filterMap fun steps =>
    match d.resolve? (root.along steps) with
    | some (.file content _) => some ⟨root.along steps, content.size⟩
    | _ => none

/-- A count of files, directories, links that lead back and links that lead nowhere. -/
def tally (d : Disk) (root : Path) (trail : List (List String)) : Walked where
  files := d.filesAlong root trail
  directories :=
    (trail.filter fun steps => d.isDirectory (root.along steps) && !decide (d.LeadsBack root steps)).map root.along
  loops := trail.countP fun steps => d.LeadsBack root steps
  errors := trail.countP fun steps => d.Dangles root steps

theorem tally_append (d : Disk) (root : Path) (trail more : List (List String)) :
    d.tally root (trail ++ more) = d.tally root trail ++ d.tally root more := by
  show _ = Walked.append _ _
  simp [tally, filesAlong, Walked.append]

theorem tally_file {content : ByteArray} {executable : Bool}
    (isFile : d.resolve? (root.along steps) = some (.file content executable)) :
    d.tally root [steps] = { files := [⟨root.along steps, content.size⟩] } := by
  have notDirectory : d.isDirectory (root.along steps) = false := by simp [isDirectory, isFile]
  have pathExists : d.pathExists (root.along steps) := by simp [pathExists, isFile]
  simp [tally, filesAlong, isFile, LeadsBack, Dangles, notDirectory, pathExists]

theorem tally_directory (isDirectory : d.isDirectory (root.along steps)) (isNew : ¬ d.LeadsBack root steps) :
    d.tally root [steps] = { directories := [root.along steps] } := by
  have pathExists := pathExists_of_isDirectory isDirectory
  have found : d.resolve? (root.along steps) = some .directory := by simpa [Disk.isDirectory] using isDirectory
  simp [tally, filesAlong, isDirectory, isNew, found, Dangles, pathExists]

theorem tally_loop (back : d.LeadsBack root steps) : d.tally root [steps] = { loops := 1 } := by
  have isDirectory := back.2.1
  have pathExists := pathExists_of_isDirectory isDirectory
  have found : d.resolve? (root.along steps) = some .directory := by simpa [Disk.isDirectory] using isDirectory
  simp [tally, filesAlong, isDirectory, back, found, Dangles, pathExists]

theorem tally_dangling (dangles : d.Dangles root steps) : d.tally root [steps] = { errors := 1 } := by
  have found : d.resolve? (root.along steps) = none := by simpa [pathExists] using dangles.2
  have notDirectory : d.isDirectory (root.along steps) = false := by simp [isDirectory, found]
  simp [tally, filesAlong, found, LeadsBack, notDirectory, dangles]

theorem tally_fault {fault : WalkFault} (described : d.Describes root steps (.fault fault)) :
    d.tally root [steps] = fault.count := by
  obtain ⟨-, why⟩ := described
  rw [WalkFault.count]
  split at why
  case isTrue isLoop => rw [tally_loop why, if_pos isLoop]
  case isFalse isError => rw [tally_dangling why, if_neg isError]

/-- What is found is counted from all that is come to. -/
def Counts (d : Disk) (options : WalkOptions) (root : Path) (front names : List String) (found : Walked) : Prop :=
  ∃ trail, d.Covers options root front names trail ∧ found = d.tally root trail

theorem Counts.cons {own later : Walked} (first : d.Counts options root front [name] own)
    (others : d.Counts options root front names later) (distinct : (name :: names).Nodup) :
    d.Counts options root front (name :: names) (own ++ later) := by
  obtain ⟨trail, covers, rfl⟩ := first
  obtain ⟨more, covers', rfl⟩ := others
  exact ⟨trail ++ more, covers.cons covers' (List.nodup_cons.mp distinct).1, (d.tally_append root trail more).symm⟩

namespace OnWay

section

variable (onWay : d.OnWay options root (here :: above) front) (tree : d.IsTree) (isName : IsName name)
  (reaches : options.reaches (here :: above).length)

include onWay tree isName

theorem describes {met : Met} (meets : d.meet (here :: above) (here ++ [name]) ((root.along front).join name) = met) :
    d.Describes root (front ++ [name]) met := by
  rw [← meets, ← along_concat]
  exact onWay.describes_meet tree isName

theorem counts_nothing (met : d.meet (here :: above) (here ++ [name]) ((root.along front).join name) = .nothing) :
    d.Counts options root front [name] {} :=
  ⟨[], .nothing (onWay.describes tree isName met), rfl⟩

include reaches

omit tree in
/-- What is not entered is counted alone. -/
theorem counts_leaf (present : d.hasEntry (root.along (front ++ [name])))
    (stops : ¬ d.Enters options root (front ++ [name])) :
    d.Counts options root front [name] (d.tally root [front ++ [name]]) :=
  ⟨_, .leaf (onWay.meets isName present reaches) stops, rfl⟩

theorem counts_fault {fault : WalkFault}
    (met : d.meet (here :: above) (here ++ [name]) ((root.along front).join name) = .fault fault) :
    d.Counts options root front [name] fault.count := by
  have described := onWay.describes tree isName met
  rw [← tally_fault described]
  refine onWay.counts_leaf isName reaches described.1 fun enters => ?_
  have why := described.2
  split at why
  · exact enters.isNew why
  · have pathExists := pathExists_of_isDirectory enters.isDirectory
    simp [why.2] at pathExists

theorem counts_file {size : Nat}
    (met : d.meet (here :: above) (here ++ [name]) ((root.along front).join name) = .file size) :
    d.Counts options root front [name] { files := [⟨(root.along front).join name, size⟩] } := by
  obtain ⟨content, executable, isFile, rfl⟩ := onWay.describes tree isName met
  have pathExists : d.pathExists (root.along (front ++ [name])) := by simp [pathExists, isFile]
  rw [← along_concat, ← tally_file isFile]
  refine onWay.counts_leaf isName reaches (hasEntry_of_pathExists pathExists) fun enters => ?_
  have isDirectory := enters.isDirectory
  simp [Disk.isDirectory, isFile] at isDirectory

variable (met : d.meet (here :: above) (here ++ [name]) ((root.along front).join name) = .directory location)

include met

theorem counts_ignored (isIgnored : options.ignores name) :
    d.Counts options root front [name] { directories := [(root.along front).join name] } := by
  obtain ⟨located, found, isNew⟩ := onWay.describes tree isName met
  have isDirectory := isDirectory_iff.mpr ⟨location, located, found⟩
  have present := hasEntry_of_pathExists (pathExists_of_isDirectory isDirectory)
  rw [← along_concat, ← tally_directory isDirectory isNew]
  refine onWay.counts_leaf isName reaches present fun enters => ?_
  have kept := enters.kept name (by simp)
  simp [isIgnored] at kept

/-- The directory that is met can be entered, and then what is in it is counted behind it. -/
theorem counts_entered (kept : options.ignores name = false) {inside : Walked}
    (below : d.OnWay options root (location :: here :: above) (front ++ [name]) →
      d.Counts options root (front ++ [name]) (d.childNames location) inside) :
    d.Counts options root front [name] ({ directories := [(root.along front).join name] } ++ inside) := by
  obtain ⟨located, found, isNew⟩ := onWay.describes tree isName met
  have isDirectory := isDirectory_iff.mpr ⟨location, located, found⟩
  have present := hasEntry_of_pathExists (pathExists_of_isDirectory isDirectory)
  have enters : d.Enters options root (front ++ [name]) := ⟨isDirectory, isNew, by simpa using kept⟩
  obtain ⟨trail, covers, rfl⟩ := below (onWay.cons isName enters located)
  refine ⟨_, .below (onWay.meets isName present reaches) located found covers, ?_⟩
  rw [← along_concat, ← tally_directory isDirectory isNew, ← tally_append, List.singleton_append]

end

end OnWay

/-- A walk by the rules counts what it comes to. -/
theorem Walks.counts (tree : d.IsTree) {path : Path} (walks : d.Walks options way path names found)
    (path_eq : path = root.along front) (onWay : d.OnWay options root way front)
    (isName : ∀ name ∈ names, IsName name) (distinct : names.Nodup) : d.Counts options root front names found := by
  induction walks generalizing front with
  | done => exact ⟨[], .nil, rfl⟩
  | beyond tooDeep => exact ⟨[], .beyond (by simpa [onWay.length_eq] using tooDeep), rfl⟩
  | @nothing _ _ _ _ _ later reaches met _ others =>
    subst path_eq
    obtain ⟨isNameHere, isNameLater⟩ := List.forall_mem_cons.mp isName
    rw [← Walked.nil_append later]
    exact (onWay.counts_nothing tree isNameHere met).cons (others rfl onWay isNameLater distinct.of_cons) distinct
  | fault reaches met _ others =>
    subst path_eq
    obtain ⟨isNameHere, isNameLater⟩ := List.forall_mem_cons.mp isName
    exact (onWay.counts_fault tree isNameHere reaches met).cons (others rfl onWay isNameLater distinct.of_cons) distinct
  | file reaches met _ others =>
    subst path_eq
    obtain ⟨isNameHere, isNameLater⟩ := List.forall_mem_cons.mp isName
    exact (onWay.counts_file tree isNameHere reaches met).cons (others rfl onWay isNameLater distinct.of_cons) distinct
  | ignored reaches met isIgnored _ others =>
    subst path_eq
    obtain ⟨isNameHere, isNameLater⟩ := List.forall_mem_cons.mp isName
    exact (onWay.counts_ignored tree isNameHere reaches met isIgnored).cons
      (others rfl onWay isNameLater distinct.of_cons) distinct
  | @entered _ _ _ _ _ _ _ location reaches met kept _ _ below others =>
    subst path_eq
    obtain ⟨isNameHere, isNameLater⟩ := List.forall_mem_cons.mp isName
    have isNameBelow : ∀ name ∈ d.childNames location, IsName name := fun name member =>
      tree.isName (mem_childNames.mp member) name (by simp)
    have entered := onWay.counts_entered tree isNameHere reaches met kept fun onWayBelow =>
      below (along_concat ..).symm onWayBelow isNameBelow (tree.nodup_childNames location)
    exact entered.cons (others rfl onWay isNameLater distinct.of_cons) distinct

end Disk

end PluginAudit
