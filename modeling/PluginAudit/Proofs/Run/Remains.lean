import PluginAudit.Proofs.Disk
import PluginAudit.Proofs.Preparation.Sparing
import PluginAudit.Proofs.Rehearsal
import PluginAudit.Proofs.Run.History
import PluginAudit.Proofs.RuntimeEnvironment.DropIn

/-!
# What a run leaves of its runtime environment

Where the runtime environment of a run was absent, it is absent again after the
run, with one exception: if the drop-in file cannot be written, the tables that
were installed before it stay.
-/

namespace PluginAudit

/-- What the runtime environment is set up in. -/
structure Housing where
  disk : Disk
  contentDirectory : Path
  sitePrefix : String
  tables : List String
  active : List (String × List String)
  /-- Whether the prefix in use is well formed. -/
  inUse : Bool

/-- What the runtime environment is set up in. -/
def World.housing (world : World) : Housing :=
  ⟨world.disk, world.host.contentDirectory, world.host.sitePrefix, world.host.tables,
    world.host.active, Host.isTablePrefix world.host.tablePrefix⟩

theorem World.postless_housing : Postless housing := fun _ _ _ _ => rfl

theorem World.unfiltered_housing : Unfiltered housing := fun _ _ _ => rfl

theorem World.unjournaled_housing : Unjournaled housing := fun _ _ => rfl

variable {pre : String} {world after later : World} {housing : Housing}

namespace RuntimeEnvironment

/-- Nothing of the runtime environment under a prefix is there. -/
structure Absent (pre : String) (world : World) : Prop where
  tables : world.host.tablesUnder pre = []
  stored : Assoc.get? pre world.host.active = none
  dropIn : world.disk.hasEntry (dropInPath world.host) = false

/-- The drop-in file can be written. -/
def Writable (world : World) : Prop :=
  ∃ disk, world.disk.write (dropInPath world.host) dropInBytes = .ok disk

theorem Absent.congr (absent : Absent pre world) (same : after.housing = world.housing) :
    Absent pre after := by
  obtain ⟨sameDisk, sameDirectory, -, sameTables, sameActive, -⟩ := Housing.mk.inj same
  obtain ⟨tables, stored, dropIn⟩ := absent
  refine ⟨?_, by rwa [sameActive], ?_⟩
  · rwa [Host.tablesUnder, sameTables]
  · rwa [dropInPath, sameDisk, sameDirectory]

theorem Writable.congr (writable : Writable world) (same : after.housing = world.housing) :
    Writable after := by
  obtain ⟨sameDisk, sameDirectory, -, -, -, -⟩ := Housing.mk.inj same
  unfold Writable dropInPath
  rwa [sameDisk, sameDirectory]

attribute [local irreducible] Host.coreTablesUnder

/-- The tables that were installed are there. -/
theorem not_absent_of_equipped (noTables : world.host.tablesUnder pre = [])
    (host : after.host = equipped pre world.host) : ¬ Absent pre after := by
  intro absent
  have member := options_mem_equipped noTables
  rw [← host, absent.tables] at member
  cases member

/-- Where there is no environment, setting it up equips the site and writes the
drop-in file, or fails at the latter and leaves the site equipped. -/
theorem runIn_setUp_absent (absent : Absent pre world)
    (inUse : Host.isTablePrefix world.host.tablePrefix) (wellFormed : Host.isTablePrefix pre) :
    (∃ disk, world.disk.write (dropInPath world.host) dropInBytes = .ok disk ∧
      (setUp pre).runIn world = (.ok (), { world with disk, host := equipped pre world.host })) ∨
    ∃ e, ¬ Writable world ∧
      (setUp pre).runIn world = (.error e, { world with host := equipped pre world.host }) := by
  rw [runIn_setUp inUse wellFormed]
  unfold writeDropIn
  rw [Act.runIn_eq]
  dsimp only
  rw [(dropInPath_equipped pre world.host).1, Disk.pathExists_of_not_hasEntry absent.dropIn]
  cases written : world.disk.write (dropInPath world.host) dropInBytes with
  | ok disk => exact .inl ⟨disk, rfl, rfl⟩
  | error fault =>
    refine .inr ⟨_, ?_, rfl⟩
    rintro ⟨disk, writable⟩
    cases written.symm.trans writable

/-- Cleaning up after the environment was set up leaves nothing of it, whatever
was done meanwhile that left it alone. -/
theorem absent_cleanUp {disk : Disk} (lawful : world.host.Lawful) (absent : Absent pre world)
    (wellFormed : Host.isTablePrefix pre) (other : pre ≠ world.host.sitePrefix)
    (written : world.disk.write (dropInPath world.host) dropInBytes = .ok disk)
    (same : later.housing =
      ({ world with disk, host := equipped pre world.host } : World).housing) :
    Absent pre ((cleanUp pre).runIn later).2 := by
  obtain ⟨sameDisk, sameDirectory, sameOwn, sameTables, sameActive, sameUse⟩ := Housing.mk.inj same
  have equippedLawful := equipped_lawful lawful wellFormed
  have inUse : Host.isTablePrefix later.host.tablePrefix := sameUse.trans equippedLawful.tablePrefix
  have own : Host.isTablePrefix later.host.sitePrefix := by
    rw [sameOwn]
    exact equippedLawful.sitePrefix
  have path : dropInPath (stripped pre later.host) = dropInPath world.host := by
    rw [dropInPath_stripped, dropInPath, sameDirectory]
    exact (dropInPath_equipped pre world.host).1
  have removed : removeDropIn.runIn { later with host := stripped pre later.host } =
      (.ok (), { later with disk := world.disk, host := stripped pre later.host }) := by
    refine runIn_removeDropIn_written ?_ ?_
    · rw [path]
      exact absent.dropIn
    · rw [path, written]
      exact congrArg Except.ok sameDisk.symm
  have noTables := @tablesUnder_stripped pre later.host
  -- where there is no table of options, no active plugins are stored
  have stored : StoredLawfully (· ≠ world.host.sitePrefix) later.host.tables later.host.active := by
    have lawfully := equippedLawful.storage
    rw [(dropInPath_equipped pre world.host).2] at lawfully
    rwa [sameTables, sameActive]
  rw [runIn_cleanUp inUse own, removed]
  refine ⟨noTables, ?_, ?_⟩
  · exact (stored.dropTables _).none_stored other noTables
  · dsimp only
    rw [path]
    exact absent.dropIn

end RuntimeEnvironment

open RuntimeEnvironment

/-! ## Cleanups -/

/-- A cleanup leaves nothing of the runtime environment in a world that is housed
in a given way. -/
def Cleanup.Clears (pre : String) (housing : Housing) (c : Cleanup) : Prop :=
  ∀ world, world.housing = housing → Absent pre (c.run.runIn world).2

namespace Cleanup.Clears

/-- A further cleanup can be put behind a chain if it leaves the environment to
it. -/
theorem chain_append {label : String} {parts : List Cleanup} {last : Cleanup}
    (rest : (chain label parts).Clears pre housing)
    (keeps : ∀ world, world.housing = housing → (last.run.runIn world).2.housing = housing) :
    (chain label (parts ++ [last])).Clears pre housing := by
  intro world housed
  rw [world_chain_append]
  exact rest _ (keeps world housed)

end Cleanup.Clears

/-! ## Preparing the site -/

namespace Run

variable {r : Run} {parts : List Cleanup}

/-- Preparing the site comes out with nothing left of the environment: at once
if it failed, and once the cleanup is carried out if it did not. -/
def Cleared (pre : String) : Except Error Cleanup × World → Prop
  | (.ok cleanup, world) => cleanup.Clears pre world.housing
  | (.error _, world) => Absent pre world

theorem switchPrefix_cleared (clears : (combined parts).Clears pre world.housing)
    (inUse : Host.isTablePrefix world.host.tablePrefix) :
    Cleared pre ((r.switchPrefix parts).runIn world) := by
  unfold switchPrefix
  rw [Act.runIn_eq]
  simp only [Act.runIn_tryHost]
  by_cases wellFormed : Host.isTablePrefix r.settings.testingPrefix
  · rw [useTablePrefix_of_isTablePrefix _ wellFormed]
    -- the prefix in use is another one, but well formed as the one before
    have same : ({ world with host := { world.host with
        tablePrefix := r.settings.testingPrefix } } : World).housing = world.housing := by
      simp [World.housing, inUse, wellFormed]
    show Cleanup.Clears pre _ _
    rw [same]
    refine clears.chain_append fun later housed => ?_
    rw [Cleanup.run_of, Act.runIn_tryHost, useTablePrefix_of_isTablePrefix _ inUse]
    have laterUse : Host.isTablePrefix later.host.tablePrefix = true :=
      (congrArg Housing.inUse housed).trans inUse
    rw [← housed]
    simp [World.housing, inUse, laterUse]
  · rw [useTablePrefix_of_not_isTablePrefix _ wellFormed]
    exact clears world rfl

theorem isolate_cleared (clears : (combined parts).Clears pre world.housing)
    (inUse : Host.isTablePrefix world.host.tablePrefix) (basename : String) :
    Cleared pre ((r.isolate basename parts).runIn world) := by
  have universal := UniversalPreparation.prepare_spares World.unfiltered_housing basename
    r.settings.tool r.settings.themeDirectory
  unfold isolate
  rw [Act.runIn_eq]
  dsimp only
  split
  · rename_i made
    exact clears _ (universal.making.of_runIn made)
  · rename_i cleanup isolated made
    have same := universal.making.of_runIn made
    refine switchPrefix_cleared ?_ ((congrArg Housing.inUse same).trans inUse)
    rw [same]
    exact clears.chain_append fun later housed => (universal.undoing made later).trans housed

/-- A run sets up the runtime environment: it manages the environment, and one of
the checks of the target needs it. -/
def SetsUp (r : Run) (target : RunTarget) : Prop :=
  r.request.managesEnvironment ∧ target.selected.hasRuntime

/-- Preparing the site leaves nothing of the environment behind, unless the
drop-in file cannot be written. -/
theorem prepareSite_cleared (lawful : world.host.Lawful)
    (absent : Absent r.settings.testingPrefix world)
    (wellFormed : Host.isTablePrefix r.settings.testingPrefix)
    (other : r.settings.testingPrefix ≠ world.host.sitePrefix) (target : RunTarget) :
    (r.SetsUp target → Writable world) ∧
        Cleared r.settings.testingPrefix ((r.prepareSite target).runIn world) ∨
      (r.SetsUp target ∧ ¬ Writable world) ∧
        ∃ e after, (r.prepareSite target).runIn world = (.error e, after) ∧
          ¬ Absent r.settings.testingPrefix after := by
  have nothing : (combined []).Clears r.settings.testingPrefix world.housing :=
    fun _ housed => absent.congr housed
  unfold prepareSite
  split
  · rename_i hasRuntime
    unfold prepareRuntime
    rw [Act.runIn_eq]
    split
    · rename_i manages
      rcases runIn_setUp_absent absent lawful.tablePrefix wellFormed with
        ⟨disk, written, ran⟩ | ⟨e, notWritable, ran⟩
      · refine .inl ⟨fun _ => ⟨disk, written⟩, ?_⟩
        simp only [ran]
        refine isolate_cleared (fun later housed => ?_)
          (equipped_lawful lawful wellFormed).tablePrefix target.basename
        have cleared := absent_cleanUp lawful absent wellFormed other written housed
        exact (Cleanup.world_chain_append "runner" [] _ later).symm ▸ cleared
      · refine .inr ⟨⟨⟨manages, hasRuntime⟩, notWritable⟩, e, _, by simp only [ran]; rfl, ?_⟩
        exact not_absent_of_equipped absent.tables rfl
    · rename_i notManaged
      exact .inl ⟨fun setsUp => absurd setsUp.1 notManaged,
        isolate_cleared nothing lawful.tablePrefix target.basename⟩
  · rename_i noRuntime
    exact .inl ⟨fun setsUp => absurd setsUp.2 noRuntime, nothing⟩

/-! ## Runs -/

/-- Preparing a run comes to setting up the runtime environment. -/
def NeedsEnvironment (r : Run) (world : World) : Prop :=
  ∃ target, r.state = .idle ∧ (r.resolve world).outcome = .ok target ∧ r.SetsUp target

/-- What a run with an environment of its own starts from: nothing of the
environment is there, and neither checks nor extensions tamper with it. -/
structure StartsWithout (r : Run) (world : World) : Prop where
  lawful : world.host.Lawful
  wellFormed : Host.isTablePrefix r.settings.testingPrefix
  other : r.settings.testingPrefix ≠ world.host.sitePrefix
  absent : Absent r.settings.testingPrefix world
  /-- Checks leave it alone. -/
  admits : r.Admits (CheckCollection.All (Check.Leaves World.housing))
  extensions : ∀ extension ∈ r.extensions, extension.Spares fun world => (world.host, world.disk)

namespace StartsWithout

variable {world : World}

/-- Preparing a run leaves nothing of the environment behind, now or once the
preparations are undone, unless the drop-in file cannot be written. -/
theorem prepare (start : r.StartsWithout world) :
    (r.NeedsEnvironment world → Writable world) ∧
        (∀ e, (r.prepare world).outcome = .error e →
          Absent r.settings.testingPrefix (r.prepare world).world) ∧
        ((r.prepare world).outcome = .ok () →
          ((r.prepare world).run.cleanup.getD .noop).Clears r.settings.testingPrefix
            (r.prepare world).world.housing) ∨
      (r.NeedsEnvironment world ∧ ¬ Writable world) ∧
        ∃ e, (r.prepare world).outcome = .error e ∧
          ¬ Absent r.settings.testingPrefix (r.prepare world).world := by
  obtain ⟨sameHost, sameDisk⟩ := Prod.mk.inj (resolve_spares start.extensions world)
  have same : (r.resolve world).world.housing = world.housing := by
    simp [World.housing, sameHost, sameDisk]
  rcases prepare_cases r world with ⟨e, notIdle, ran⟩ | ⟨e, idle, failed, ran⟩ |
    ⟨target, e, after, idle, found, made, ran⟩ | ⟨target, cleanup, after, idle, found, made, ran⟩
  -- without a target nothing was prepared
  · refine .inl ⟨fun ⟨_, idle, _⟩ => absurd idle notIdle, fun _ _ => ?_, ?_⟩
    · rw [ran]
      exact start.absent
    · simp [ran]
  · refine .inl ⟨fun ⟨_, _, found, _⟩ => ?_, fun _ _ => ?_, ?_⟩
    · cases failed.symm.trans found
    · rw [ran]
      exact start.absent.congr same
    · simp [ran]
  -- the target is known now, so the site is prepared for it
  all_goals
    have needs : r.NeedsEnvironment world ↔ r.SetsUp target := by
      refine ⟨fun ⟨other, _, otherFound, setsUp⟩ => ?_, fun setsUp => ⟨target, idle, found, setsUp⟩⟩
      rwa [Except.ok.inj (found.symm.trans otherFound)]
    have cleared := prepareSite_cleared (r := r) (sameHost ▸ start.lawful)
      (start.absent.congr same) start.wellFormed (sameHost ▸ start.other) target
    rw [made] at cleared
    rw [needs, ran]
    rcases cleared with ⟨writable, cleared⟩ | ⟨⟨setsUp, notWritable⟩, _, _, failed, left⟩
  · exact .inl ⟨fun setsUp => (writable setsUp).congr same.symm, fun _ _ => cleared, nofun⟩
  · cases failed
    exact .inr ⟨⟨setsUp, fun writable => notWritable (writable.congr same)⟩, e, rfl, left⟩
  · exact .inl ⟨fun setsUp => (writable setsUp).congr same.symm, nofun, fun _ => cleared⟩
  · cases failed

theorem absent_execute (start : r.StartsWithout world) :
    Absent r.settings.testingPrefix (r.execute world).world ↔
      (r.NeedsEnvironment world → Writable world) := by
  rcases start.prepare with ⟨writable, failing, succeeding⟩ | ⟨⟨needs, notWritable⟩, e, failed, left⟩
  · refine ⟨fun _ => writable, fun _ => ?_⟩
    rcases ran : r.prepare world with ⟨e | _, ready, prepared⟩
    · have failed : (r.prepare world).outcome = .error e := by rw [ran]
      rw [execute_of_prepare_error failed]
      exact failing e failed
    · obtain ⟨target, found, known, executed⟩ := execute_of_prepare ran
      have checks := runShared_spares (start.admits.known found) prepared
      have clears := succeeding (by rw [ran])
      rw [ran] at clears
      rw [Cleanup.runIn_guarded] at executed
      obtain ⟨-, left⟩ := Prod.mk.inj executed
      rw [← left]
      exact clears _ checks
  · refine ⟨fun absent => absurd absent ?_, fun condition => absurd (condition needs) notWritable⟩
    rwa [execute_of_prepare_error failed]

theorem absent_release (start : r.StartsWithout world)
    (succeeded : (r.prepare world).outcome = .ok ()) :
    Absent r.settings.testingPrefix ((r.prepare world).run.release (r.prepare world).world) := by
  rcases start.prepare with ⟨-, -, succeeding⟩ | ⟨-, e, failed, -⟩
  · exact succeeding succeeded _ rfl
  · cases failed.symm.trans succeeded

theorem absent_prepare (start : r.StartsWithout world) {e : Error}
    (failed : (r.prepare world).outcome = .error e) :
    Absent r.settings.testingPrefix (r.prepare world).world ↔
      (r.NeedsEnvironment world → Writable world) := by
  rcases start.prepare with ⟨writable, failing, -⟩ | ⟨⟨needs, notWritable⟩, -, -, left⟩
  · exact ⟨fun _ => writable, fun _ => failing e failed⟩
  · exact ⟨fun absent => absurd absent left, fun condition => absurd (condition needs) notWritable⟩

end StartsWithout

/-- Where there was no runtime environment, none is left by a preparation that
failed, by an execution, whatever comes of it, and by a prepared run that is
given up.  The one exception is an environment whose drop-in file cannot be
written: its tables stay. -/
theorem environment_absent_iff (repository : CheckRepository) (request : RunRequest)
    (settings : RunSettings) (extensions : List Extension) (world : World) (calls : List RunCall)
    (wellFormed : Host.isTablePrefix settings.testingPrefix)
    (leaving : ∀ entry ∈ repository.staticChecks ++ repository.runtimeChecks,
      entry.2.Leaves World.housing)
    (keeping : ∀ extension ∈ extensions,
      extension.Keeps (CheckCollection.All (Check.Leaves World.housing)))
    (sparing : ∀ extension ∈ extensions, extension.Spares fun world => (world.host, world.disk)) :
    let s := (RunCall.performAll
      ⟨Run.ofRequest repository request settings extensions, world⟩ calls).2
    s.world.host.Lawful → settings.testingPrefix ≠ s.world.host.sitePrefix →
    s.world.host.tablesUnder settings.testingPrefix = [] →
    s.world.disk.hasEntry (dropInPath s.world.host) = false →
      (∀ e, (s.run.prepare s.world).outcome = .error e →
        (Absent settings.testingPrefix (s.run.prepare s.world).world ↔
          (s.run.NeedsEnvironment s.world → Writable s.world))) ∧
      (Absent settings.testingPrefix (s.run.execute s.world).world ↔
        (s.run.NeedsEnvironment s.world → Writable s.world)) ∧
      ((s.run.prepare s.world).outcome = .ok () →
        Absent settings.testingPrefix
          ((s.run.prepare s.world).run.release (s.run.prepare s.world).world)) := by
  intro s lawful other noTables noDropIn
  have admits : s.run.Admits (CheckCollection.All (Check.Leaves World.housing)) :=
    admits_performAll (CheckCollection.hereditary_all _) leaving keeping request settings world calls
  obtain ⟨sameSettings, sameExtensions⟩ : s.run.settings = settings ∧ s.run.extensions = extensions :=
    (invariant_inherited settings extensions).performAll
      (s := ⟨Run.ofRequest repository request settings extensions, world⟩) ⟨rfl, rfl⟩ calls
  have stored := lawful.storage.none_stored other noTables
  rw [← sameSettings] at wellFormed other noTables stored ⊢
  have start : s.run.StartsWithout s.world :=
    { lawful, wellFormed, other, admits
      absent := ⟨noTables, stored, noDropIn⟩
      extensions := by rwa [sameExtensions] }
  exact ⟨fun _ => start.absent_prepare, start.absent_execute, start.absent_release⟩

end Run

/-! ## Two sites -/

namespace Rehearsal

/-- The request for all checks of a plugin, in an environment of its own. -/
def housedRequest : RunRequest := { visitRequest with managesEnvironment := true }

theorem visitor_leaves_housing (slug : String) (mode : ExecutionMode) :
    (visitor slug mode).Leaves World.housing where
  spares := visitor_spares World.unjournaled_housing slug mode
  requests _ request member := by
    rw [List.mem_singleton.mp member]
    exact DemoPosts.request_spares World.postless_housing.unposted _

theorem visits_leave_housing :
    ∀ entry ∈ visits.staticChecks ++ visits.runtimeChecks, entry.2.Leaves World.housing :=
  forall_visits visitor_leaves_housing

theorem dropInPath_quietSite (directories : List Location) :
    dropInPath (quietSite directories).host = ⟨"site/wp-content/object-cache.php"⟩ := by
  show dropInPath (Host.simulated ⟨"site"⟩ { plugins := busyPlugins }) = _
  decide

/-- The drop-in file of a quiet site is looked for from the root on. -/
theorem place_dropInPath (directories : List Location) (follow : Bool) :
    (quietSite directories).disk.place follow (dropInPath (quietSite directories).host) =
      (quietSite directories).disk.followFrom follow Disk.maximalLinks []
        ["site", "wp-content", "object-cache.php"] := by
  have names : Disk.steps "site/wp-content/object-cache.php" =
      ["site", "wp-content", "object-cache.php"] := by decide
  rw [dropInPath_quietSite, Disk.place, names]
  rfl

theorem place_dropInPath_housed (follow : Bool) :
    (quietSite [["site"], ["site", "wp-content"]]).disk.place follow
        (dropInPath (quietSite [["site"], ["site", "wp-content"]]).host) =
      .ok ⟨["site", "wp-content", "object-cache.php"], false⟩ := by
  rw [place_dropInPath]
  simp [Disk.followFrom, quietSite, Disk.empty, Disk.entry?, Assoc.get?]

theorem place_dropInPath_bare (follow : Bool) :
    (quietSite []).disk.place follow (dropInPath (quietSite []).host) = .error .missing := by
  rw [place_dropInPath]
  simp [Disk.followFrom, quietSite, Disk.empty, Disk.entry?, Assoc.get?]

end Rehearsal

open Rehearsal

/-- A run with an environment of its own, on a site with a content directory. -/
theorem Run.environment_absent_quietSite :
    let world := quietSite [["site"], ["site", "wp-content"]]
    let r := Run.ofRequest visits housedRequest
    Writable world ∧ Absent "wppc_" (r.execute world).world ∧
      ((r.prepare world).outcome = .ok () →
        Absent "wppc_" ((r.prepare world).run.release (r.prepare world).world)) := by
  intro world r
  have noDropIn : world.disk.hasEntry (dropInPath world.host) = false := by
    rw [Disk.hasEntry, place_dropInPath_housed]
  have writable : Writable world := by
    refine ⟨world.disk.put ["site", "wp-content", "object-cache.php"] (.file dropInBytes false), ?_⟩
    rw [Disk.write, place_dropInPath_housed]
    rfl
  obtain ⟨-, executed, released⟩ := Run.environment_absent_iff visits housedRequest {} [] world []
    (by decide) visits_leave_housing (List.forall_mem_nil _) (List.forall_mem_nil _)
    (.simulated _ _) (by decide) (by decide) noDropIn
  exact ⟨writable, executed.mpr fun _ => writable, released⟩

/-- Without a content directory the drop-in file cannot be written, and the
tables that were installed before it stay. -/
theorem Run.environment_left_quietSite :
    let world := quietSite []
    let r := Run.ofRequest visits housedRequest
    Absent "wppc_" world ∧ ∃ e, (r.prepare world).outcome = .error e ∧
      ¬ Absent "wppc_" (r.prepare world).world ∧ ¬ Absent "wppc_" (r.execute world).world := by
  intro world r
  have noDropIn : world.disk.hasEntry (dropInPath world.host) = false := by
    rw [Disk.hasEntry, place_dropInPath_bare]
  have absent : Absent "wppc_" world := ⟨by decide, rfl, noDropIn⟩
  have notWritable : ¬ Writable world := by
    rintro ⟨disk, written⟩
    rw [Disk.write, place_dropInPath_bare] at written
    cases written
  have needs : r.NeedsEnvironment world := ⟨_, rfl, rfl, rfl, rfl⟩
  have start : r.StartsWithout world :=
    { absent
      lawful := .simulated _ _
      wellFormed := by decide
      other := by decide
      admits := .ofRequest (CheckCollection.hereditary_all _) visits_leave_housing
        (List.forall_mem_nil _) _ _
      extensions := List.forall_mem_nil _ }
  rcases start.prepare with ⟨writable, -, -⟩ | ⟨-, e, failed, left⟩
  · exact absurd (writable needs) notWritable
  · exact ⟨absent, e, failed, left, fun gone => notWritable (start.absent_execute.mp gone needs)⟩

end PluginAudit
