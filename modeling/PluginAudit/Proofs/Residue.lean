import PluginAudit.Proofs.Checks.EnqueuedAssets
import PluginAudit.Proofs.RuntimeEnvironment.RoundTrip

/-!
# What is left behind

A run gives back what it has changed on a site, apart from a residue: posts, the numbers
that the next filter and the next post get, and records of what was inserted, requested and
noted.  The runtime environment takes no notice of it.  Setting the environment up where it
stands changes nothing, and where there was none at first, cleaning up leads back.
-/

namespace PluginAudit

/-! ## Residues -/

/-- The part of the world that runs do not give back. -/
structure Residue where
  nextFilter : Nat := 0
  posts : List (Nat × StoredPost) := []
  nextPost : Nat := 0
  insertions : Nat := 0
  requested : List String := []
  journal : List String := []

namespace Runtime

def insertions : Runtime → Nat
  | simulated simulation => simulation.insertions
  | installed _ => 0

def requested : Runtime → List String
  | simulated simulation => simulation.requested
  | installed _ => []

/-- What stands behind a site, with given records of insertions and requests. -/
def recording (runtime : Runtime) (insertions : Nat) (requested : List String) : Runtime :=
  match runtime with
  | simulated simulation => simulated { simulation with insertions, requested }
  | installed root => installed root

variable {runtime : Runtime} {insertions : Nat} {requested : List String}

theorem recording_recording (earlier : Nat) (visited : List String) :
    (runtime.recording earlier visited).recording insertions requested =
      runtime.recording insertions requested := by
  cases runtime <;> rfl

theorem recording_own (runtime : Runtime) :
    runtime.recording runtime.insertions runtime.requested = runtime := by
  cases runtime <;> rfl

theorem recording_counting (more : Nat) :
    (runtime.counting more).recording insertions requested = runtime.recording insertions requested := by
  cases runtime <;> rfl

end Runtime

/-- The site with a given residue in place of its own. -/
def Host.withResidue (h : Host) (left : Residue) : Host :=
  { h with
    filters := ⟨h.filters.entries, left.nextFilter⟩
    posts := left.posts
    nextPost := left.nextPost
    runtime := h.runtime.recording left.insertions left.requested }

namespace World

def residue (world : World) : Residue where
  nextFilter := world.host.filters.nextId
  posts := world.host.posts
  nextPost := world.host.nextPost
  insertions := world.host.runtime.insertions
  requested := world.host.runtime.requested
  journal := world.journal

def withResidue (world : World) (left : Residue) : World :=
  { world with host := world.host.withResidue left, journal := left.journal }

@[simp] theorem withResidue_withResidue (world : World) (first second : Residue) :
    (world.withResidue first).withResidue second = world.withResidue second := by
  simp [withResidue, Host.withResidue, Runtime.recording_recording]

@[simp] theorem withResidue_residue (world : World) : world.withResidue world.residue = world := by
  simp [withResidue, Host.withResidue, residue, Runtime.recording_own]

/-- What checks have to leave alone: all but posts and records. -/
def premises (world : World) : World :=
  world.withResidue { nextFilter := world.host.filters.nextId }

theorem unposted_premises : Unposted premises := by
  intro world posts nextPost insertions
  simp [premises, withResidue, Host.withResidue, Runtime.recording_counting]

end World

/-- The world is as at the start but for its residue, and filters that are added get new
numbers. -/
structure Intact (start world : World) : Prop where
  same : world = start.withResidue world.residue
  filters : ∀ entry ∈ world.host.filters.entries, entry.id < world.host.filters.nextId

namespace Intact

variable {start middle world after : World} {left : Residue}

theorem of_eq (same : world = start.withResidue left)
    (filters : ∀ entry ∈ world.host.filters.entries, entry.id < world.host.filters.nextId) :
    Intact start world where
  same := by
    have own := world.withResidue_residue
    rw [same, World.withResidue_withResidue] at own
    rw [same]
    exact own.symm
  filters := filters

theorem refl (lawful : world.host.Lawful) : Intact world world :=
  ⟨world.withResidue_residue.symm, lawful.filters⟩

theorem self (intact : Intact start world) : Intact world world :=
  ⟨world.withResidue_residue.symm, intact.filters⟩

theorem trans (first : Intact start middle) (second : Intact middle world) : Intact start world where
  same := by
    have same := second.same
    rwa [first.same, World.withResidue_withResidue] at same
  filters := second.filters

/-- What leaves all but posts and records alone leaves the world intact. -/
theorem spared (intact : Intact start world) (same : after.premises = world.premises) :
    Intact start after := by
  have filters : after.premises.host.filters = world.premises.host.filters := by rw [same]
  refine intact.trans ⟨?_, filters ▸ intact.filters⟩
  have others := congrArg (World.withResidue · after.residue) same
  simpa [World.premises] using others

end Intact

/-! ## The runtime environment -/

namespace RuntimeEnvironment

variable {pre : String} {world : World} {left : Residue}

-- sites are compared field by field below, which must not spell out the tables
attribute [local irreducible] Host.coreTablesUnder

theorem equipped_withResidue (h : Host) :
    equipped pre (h.withResidue left) = (equipped pre h).withResidue left := by
  have sameTables : (h.withResidue left).tablesUnder pre = h.tablesUnder pre := rfl
  unfold equipped
  rw [sameTables]
  split <;> rfl

theorem stripped_withResidue (h : Host) :
    stripped pre (h.withResidue left) = (stripped pre h).withResidue left := by
  have dropped (tables : List String) :
      tables.foldl Host.dropTable (h.withResidue left) = (tables.foldl Host.dropTable h).withResidue left := by
    induction tables generalizing h with
    | nil => rfl
    | cons table rest inductionHypothesis => exact inductionHypothesis (h.dropTable table)
  have sameTables : (h.withResidue left).tablesUnder pre = h.tablesUnder pre := rfl
  unfold stripped
  rw [sameTables, dropped]
  rfl

theorem writeDropIn_withResidue (world : World) :
    (writeDropIn.runIn (world.withResidue left)).2 = (writeDropIn.runIn world).2.withResidue left := by
  have samePath : dropInPath (world.withResidue left).host = dropInPath world.host := rfl
  have sameDisk : (world.withResidue left).disk = world.disk := rfl
  unfold writeDropIn
  rw [Act.runIn_eq, Act.runIn_eq]
  simp only [samePath, sameDisk]
  split
  · rfl
  · split <;> rfl

theorem removeDropIn_withResidue (world : World) :
    (removeDropIn.runIn (world.withResidue left)).2 = (removeDropIn.runIn world).2.withResidue left := by
  have samePath : dropInPath (world.withResidue left).host = dropInPath world.host := rfl
  have sameDisk : (world.withResidue left).disk = world.disk := rfl
  unfold removeDropIn
  rw [Act.runIn_eq, Act.runIn_eq]
  simp only [samePath, sameDisk]
  split
  · split
    · split <;> rfl
    · rfl
  · rfl
  · rfl

/-- Setting up does not look at what was left behind. -/
theorem setUp_withResidue (inUse : Host.isTablePrefix world.host.tablePrefix) :
    ((setUp pre).runIn (world.withResidue left)).2 = ((setUp pre).runIn world).2.withResidue left := by
  by_cases wellFormed : Host.isTablePrefix pre
  · have ran := @runIn_setUp pre (world.withResidue left) inUse wellFormed
    have host : (world.withResidue left).host = world.host.withResidue left := rfl
    rw [ran, runIn_setUp inUse wellFormed, host, equipped_withResidue]
    exact writeDropIn_withResidue { world with host := equipped pre world.host }
  · obtain ⟨e, refused⟩ := runIn_setUp_refused wellFormed world
    obtain ⟨e', refusedToo⟩ := runIn_setUp_refused wellFormed (world.withResidue left)
    rw [refused, refusedToo]

/-- Nor does cleaning up. -/
theorem cleanUp_withResidue (inUse : Host.isTablePrefix world.host.tablePrefix)
    (own : Host.isTablePrefix world.host.sitePrefix) :
    ((cleanUp pre).runIn (world.withResidue left)).2 = ((cleanUp pre).runIn world).2.withResidue left := by
  have ran := @runIn_cleanUp pre (world.withResidue left) inUse own
  have host : (world.withResidue left).host = world.host.withResidue left := rfl
  rw [ran, runIn_cleanUp inUse own, host, stripped_withResidue]
  exact removeDropIn_withResidue { world with host := stripped pre world.host }

/-! ## Setting up twice -/

theorem equipped_equipped (h : Host) : equipped pre (equipped pre h) = equipped pre h := by
  by_cases noTables : h.tablesUnder pre = []
  · exact equipped_of_tables (List.ne_nil_of_mem (options_mem_equipped noTables))
  · rw [equipped_of_tables noTables, equipped_of_tables noTables]

/-- Once the drop-in file was written or could not be written, another attempt changes
nothing. -/
theorem writeDropIn_again (world : World) :
    (writeDropIn.runIn (writeDropIn.runIn world).2).2 = (writeDropIn.runIn world).2 := by
  by_cases present : world.disk.pathExists (dropInPath world.host)
  · rw [runIn_writeDropIn_present present, runIn_writeDropIn_present present]
  · have missing : world.disk.pathExists (dropInPath world.host) = false := by simpa using present
    have ran := runIn_writeDropIn_missing missing
    cases written : world.disk.write (dropInPath world.host) dropInBytes with
    | ok disk =>
      rw [written] at ran
      rw [ran, @runIn_writeDropIn_present { world with disk } (Disk.pathExists_write missing written)]
    | error fault =>
      rw [written] at ran
      rw [ran, ran]

theorem setUp_setUp (lawful : world.host.Lawful) :
    ((setUp pre).runIn ((setUp pre).runIn world).2).2 = ((setUp pre).runIn world).2 := by
  by_cases wellFormed : Host.isTablePrefix pre
  · rw [runIn_setUp lawful.tablePrefix wellFormed]
    have again := writeDropIn_again { world with host := equipped pre world.host }
    have host : (writeDropIn.runIn { world with host := equipped pre world.host }).2.host =
      equipped pre world.host := host_writeDropIn _
    generalize (writeDropIn.runIn { world with host := equipped pre world.host }).2 = housed at host again ⊢
    have inUse : Host.isTablePrefix housed.host.tablePrefix := by
      rw [host]
      exact (equipped_lawful lawful wellFormed).tablePrefix
    have same : { housed with host := equipped pre housed.host } = housed := by
      rw [host, equipped_equipped, ← host]
    rw [runIn_setUp inUse wellFormed, same, again]
  · obtain ⟨e, refused⟩ := runIn_setUp_refused wellFormed world
    rw [refused, refused]

/-! ## Sites without environment -/

/-- There is nothing of an environment under a prefix, so that cleaning up has nothing to do:
no table and no drop-in file, unless it is one of someone else. -/
structure Bare (pre : String) (world : World) : Prop where
  tables : world.host.tablesUnder pre = []
  notOwn : pre ≠ world.host.sitePrefix
  notInUse : world.host.tablePrefix ≠ pre
  dropIn : world.disk.hasEntry (dropInPath world.host) = false ∨ HoldsForeign world

namespace Bare

theorem removeDropIn (bare : Bare pre world) : (removeDropIn.runIn world).2 = world := by
  rcases bare.dropIn with absent | foreign
  · have unread : ∃ fault, world.disk.read (dropInPath world.host) = .error fault := by
      have same := Disk.place_true absent
      unfold Disk.hasEntry at absent
      unfold Disk.read Disk.locate
      rw [same]
      split at absent <;> simp_all
    obtain ⟨fault, unread⟩ := unread
    unfold RuntimeEnvironment.removeDropIn
    rw [Act.runIn_eq]
    simp only [unread]
    cases fault <;> rfl
  · rw [runIn_removeDropIn_foreign foreign]

theorem cleanUp (bare : Bare pre world) (lawful : world.host.Lawful) :
    ((cleanUp pre).runIn world).2 = world := by
  have same : stripped pre world.host = world.host := by
    simp [stripped, bare.tables, bare.notInUse]
  rw [runIn_cleanUp lawful.tablePrefix lawful.sitePrefix, same]
  exact bare.removeDropIn

/-- The drop-in file that is written is one that can be removed, if it can be written. -/
theorem exists_writeDropIn (bare : Bare pre world) :
    ∃ disk, (writeDropIn.runIn { world with host := equipped pre world.host }).2 =
        { world with disk, host := equipped pre world.host } ∧
      (DroppedIn world disk ∨ disk = world.disk) := by
  have path := (dropInPath_equipped pre world.host).1
  rcases bare.dropIn with absent | foreign
  · cases written : world.disk.write (dropInPath world.host) dropInBytes with
    | ok disk =>
      refine ⟨disk, ?_, .inl (.inl ⟨absent, written⟩)⟩
      rw [runIn_writeDropIn_written (by rwa [path]) (by rwa [path])]
    | error fault =>
      refine ⟨world.disk, ?_, .inr rfl⟩
      rw [runIn_writeDropIn_missing (by rw [path]; exact Disk.pathExists_of_not_hasEntry absent), path, written]
  · refine ⟨world.disk, ?_, .inr rfl⟩
    have standing : HoldsForeign { world with host := equipped pre world.host } := foreign.congr rfl path
    rw [runIn_writeDropIn_foreign standing]

/-- Where there was no environment, cleaning up leads back. -/
theorem cleanUp_setUp (bare : Bare pre world) (lawful : world.host.Lawful) :
    ((RuntimeEnvironment.cleanUp pre).runIn ((setUp pre).runIn world).2).2 = world := by
  by_cases wellFormed : Host.isTablePrefix pre
  · obtain ⟨disk, ran, dropIn⟩ := bare.exists_writeDropIn
    have equippedLawful := equipped_lawful lawful wellFormed
    have sitePrefix : Host.isTablePrefix (equipped pre world.host).sitePrefix := equippedLawful.sitePrefix
    have back : stripped pre (equipped pre world.host) = world.host := by
      have undone := stripped_equipped lawful wellFormed bare.notOwn bare.tables world.host.tablePrefix
      obtain ⟨tables, active, same⟩ := exists_equipped_eq pre world.host
      rw [same] at undone ⊢
      simpa [bare.notInUse] using undone
    rw [runIn_setUp lawful.tablePrefix wellFormed, ran,
      @runIn_cleanUp pre { world with disk, host := equipped pre world.host } equippedLawful.tablePrefix sitePrefix]
    dsimp only
    rw [back]
    rcases dropIn with dropped | rfl
    · rw [@DroppedIn.runIn_removeDropIn world { world with disk } dropped rfl]
    · exact bare.removeDropIn
  · obtain ⟨e, refused⟩ := runIn_setUp_refused wellFormed world
    rw [refused]
    exact bare.cleanUp lawful

end Bare

end RuntimeEnvironment

end PluginAudit
