import PluginAudit.Proofs.Disk.Agreement
import PluginAudit.Proofs.Rehearsal
import PluginAudit.Proofs.RuntimeEnvironment.DropIn
import PluginAudit.Proofs.RuntimeEnvironment.Storage

/-!
# There and back

Where there was nothing of a runtime environment, cleaning up undoes setting up
in tables, stored active plugins and the drop-in file, whatever prefix came in
use between them.  A file of someone else in the place of the drop-in file stays
as it is, in whatever order the site is set up and cleaned up.
-/

namespace PluginAudit

/-- Something that is done with the runtime environment, or with the prefix in
use. -/
inductive EnvironmentCall
  | setUp (pre : String)
  | cleanUp (pre : String)
  | usePrefix (pre : String)

namespace EnvironmentCall

def action : EnvironmentCall → Act Unit
  | setUp pre => RuntimeEnvironment.setUp pre
  | cleanUp pre => RuntimeEnvironment.cleanUp pre
  | usePrefix pre => .tryHost fun host => host.useTablePrefix pre

def perform (world : World) (call : EnvironmentCall) : World := (call.action.runIn world).2

def performAll (world : World) (calls : List EnvironmentCall) : World := calls.foldl perform world

theorem performAll_keeps (holds : World → Prop) {calls : List EnvironmentCall} {world : World}
    (step : ∀ {world}, ∀ call ∈ calls, holds world → holds (perform world call)) (start : holds world) :
    holds (performAll world calls) := by
  induction calls generalizing world with
  | nil => exact start
  | cons call rest inductionHypothesis =>
    exact inductionHypothesis (fun other member => step other (List.mem_cons_of_mem call member))
      (step call List.mem_cons_self start)

/-! ## One call -/

open RuntimeEnvironment

/-- What a call makes of the site. -/
def hostAfter (h : Host) : EnvironmentCall → Host
  | setUp pre => if Host.isTablePrefix pre then equipped pre h else h
  | cleanUp pre => stripped pre h
  | usePrefix pre => if Host.isTablePrefix pre then { h with tablePrefix := pre } else h

def onFiles : EnvironmentCall → Act Unit
  | setUp pre => if Host.isTablePrefix pre then writeDropIn else pure ()
  | cleanUp _ => removeDropIn
  | usePrefix _ => pure ()

variable {world : World} {h : Host}

theorem perform_eq (lawful : world.host.Lawful) (call : EnvironmentCall) :
    perform world call = (call.onFiles.runIn { world with host := call.hostAfter world.host }).2 := by
  unfold perform action
  -- on a lawful site no call fails but for a malformed prefix or a file
  cases call with
  | setUp pre =>
    by_cases wellFormed : Host.isTablePrefix pre
    · simp [runIn_setUp lawful.tablePrefix wellFormed, hostAfter, onFiles, wellFormed]
    · obtain ⟨e, refused⟩ := runIn_setUp_refused wellFormed world
      simp [refused, hostAfter, onFiles, wellFormed]
  | cleanUp pre => simp [runIn_cleanUp lawful.tablePrefix lawful.sitePrefix, hostAfter, onFiles]
  | usePrefix pre =>
    by_cases wellFormed : Host.isTablePrefix pre <;>
      simp [Act.runIn_tryHost, Host.useTablePrefix, hostAfter, onFiles, wellFormed]

theorem host_onFiles (call : EnvironmentCall) (world : World) :
    (call.onFiles.runIn world).2.host = world.host := by
  cases call with
  | setUp pre =>
    simp only [onFiles]
    split
    · exact host_writeDropIn world
    · rfl
  | cleanUp _ => exact host_removeDropIn world
  | usePrefix _ => rfl

theorem host_perform (lawful : world.host.Lawful) (call : EnvironmentCall) :
    (perform world call).host = call.hostAfter world.host := by
  rw [perform_eq lawful, host_onFiles]

theorem hostAfter_lawful (lawful : h.Lawful) (call : EnvironmentCall) : (call.hostAfter h).Lawful := by
  cases call with
  | setUp pre =>
    simp only [hostAfter]
    split
    · rename_i wellFormed
      exact equipped_lawful lawful wellFormed
    · exact lawful
  | cleanUp pre => exact stripped_lawful lawful
  | usePrefix pre =>
    simp only [hostAfter]
    split
    · rename_i wellFormed
      exact { lawful with tablePrefix := wellFormed }
    · exact lawful

/-- What calls in turn make of the site does not depend on any file. -/
theorem host_performAll (lawful : world.host.Lawful) (calls : List EnvironmentCall) :
    (performAll world calls).host = calls.foldl hostAfter world.host := by
  induction calls generalizing world with
  | nil => rfl
  | cons call rest inductionHypothesis =>
    have host := host_perform lawful call
    have others := @inductionHypothesis (perform world call) (host ▸ hostAfter_lawful lawful call)
    rw [host] at others
    exact others

theorem dropInPath_hostAfter (h : Host) (call : EnvironmentCall) :
    dropInPath (call.hostAfter h) = dropInPath h := by
  cases call with
  | setUp pre =>
    simp only [hostAfter]
    split
    · exact (dropInPath_equipped pre h).1
    · rfl
  | cleanUp pre => exact dropInPath_stripped pre h
  | usePrefix pre =>
    simp only [hostAfter]
    split <;> rfl

theorem performAll_lawful (lawful : world.host.Lawful) (calls : List EnvironmentCall) :
    (performAll world calls).host.Lawful := by
  refine performAll_keeps (fun world => world.host.Lawful) (fun call _ standing => ?_) lawful
  rw [host_perform standing]
  exact hostAfter_lawful standing call

/-! ## Files of someone else -/

theorem runIn_onFiles_foreign (foreign : HoldsForeign world) (call : EnvironmentCall) :
    (call.onFiles.runIn world).2 = world := by
  cases call with
  | setUp pre =>
    simp only [onFiles]
    split
    · rw [runIn_writeDropIn_foreign foreign]
    · rfl
  | cleanUp _ =>
    simp only [onFiles]
    rw [runIn_removeDropIn_foreign foreign]
  | usePrefix _ => rfl

/-- Where the drop-in file is someone else's, no call touches any file. -/
theorem disk_performAll_foreign (lawful : world.host.Lawful) (foreign : HoldsForeign world)
    (calls : List EnvironmentCall) : (performAll world calls).disk = world.disk := by
  -- by itself the tree is no invariant: the file must be known to stay someone else's
  have kept : (performAll world calls).host.Lawful ∧ HoldsForeign (performAll world calls) ∧
      (performAll world calls).disk = world.disk := by
    refine performAll_keeps
      (fun now => now.host.Lawful ∧ HoldsForeign now ∧ now.disk = world.disk)
      (fun {now} call _ standing => ?_) ⟨lawful, foreign, rfl⟩
    obtain ⟨lawful, foreign, same⟩ := standing
    have changed : HoldsForeign { now with host := call.hostAfter now.host } :=
      foreign.congr rfl (dropInPath_hostAfter now.host call)
    rw [perform_eq lawful, runIn_onFiles_foreign changed]
    exact ⟨hostAfter_lawful lawful call, changed, same⟩
  exact kept.2.2

end EnvironmentCall

namespace RuntimeEnvironment

variable {pre : String} {world : World}

/-! ## Setting up -/

theorem isName_dropIn : Disk.IsName "object-cache.php" :=
  ⟨by simp, by simp, by simp, by simp⟩

/-- A site on which the runtime environment can be set up under a prefix, and
removed again. -/
structure Ready (pre : String) (world : World) : Prop where
  lawful : world.host.Lawful
  wellFormed : Host.isTablePrefix pre
  notOwn : pre ≠ world.host.sitePrefix
  tables : world.host.tablesUnder pre = []
  /-- There is no drop-in file in a content directory that may be changed, or one
  of someone else. -/
  dropIn : (world.disk.hasEntry (dropInPath world.host) = false ∧
    ∃ directory, world.disk.Opens world.host.contentDirectory directory) ∨ HoldsForeign world

/-- The file tree after setting up: the drop-in file was written where there was
none, or the one of someone else was left alone. -/
def DroppedIn (world : World) (disk : Disk) : Prop :=
  (world.disk.hasEntry (dropInPath world.host) = false ∧
    world.disk.write (dropInPath world.host) dropInBytes = .ok disk) ∨
  (HoldsForeign world ∧ disk = world.disk)

theorem Ready.runIn_setUp (ready : Ready pre world) :
    ∃ disk, DroppedIn world disk ∧
      (setUp pre).runIn world = (.ok (), { world with disk, host := equipped pre world.host }) := by
  have path := (dropInPath_equipped pre world.host).1
  rw [RuntimeEnvironment.runIn_setUp ready.lawful.tablePrefix ready.wellFormed]
  rcases ready.dropIn with ⟨absent, directory, opens⟩ | foreign
  · have written := opens.write_join isName_dropIn absent dropInBytes
    refine ⟨_, .inl ⟨absent, written⟩, ?_⟩
    exact runIn_writeDropIn_written (by rwa [path]) (by rwa [path])
  · exact ⟨world.disk, .inr ⟨foreign, rfl⟩, runIn_writeDropIn_foreign (foreign.congr rfl path)⟩

namespace DroppedIn

variable {later : World}

theorem runIn_writeDropIn (dropped : DroppedIn world later.disk)
    (path : dropInPath later.host = dropInPath world.host) :
    writeDropIn.runIn later = (.ok (), later) := by
  rcases dropped with ⟨absent, written⟩ | ⟨foreign, same⟩
  · refine runIn_writeDropIn_present ?_
    rw [path]
    exact Disk.pathExists_of_read (Disk.read_write absent written)
  · exact runIn_writeDropIn_foreign (foreign.congr same path)

theorem runIn_removeDropIn (dropped : DroppedIn world later.disk)
    (path : dropInPath later.host = dropInPath world.host) :
    removeDropIn.runIn later = (.ok (), { later with disk := world.disk }) := by
  rcases dropped with ⟨absent, written⟩ | ⟨foreign, same⟩
  · exact runIn_removeDropIn_written (by rwa [path]) (by rwa [path])
  · rw [runIn_removeDropIn_foreign (foreign.congr same path), ← same]

/-- Where others have changed other files, the drop-in file is removed all the same. -/
theorem exists_removed {disk : Disk} (dropped : DroppedIn world disk)
    (path : dropInPath later.host = dropInPath world.host)
    (agrees : later.disk.AgreesAt (dropInPath world.host) disk) :
    ∃ removed, removeDropIn.runIn later = (.ok (), { later with disk := removed }) ∧
      (Assoc.Ascending Disk.locationLess later.disk.entries →
        removed.AgreesAt (dropInPath world.host) world.disk) := by
  rcases dropped with ⟨absent, written⟩ | ⟨⟨content, found, different⟩, rfl⟩
  · obtain ⟨removed, ran, restored⟩ :=
      agrees.exists_remove (Disk.getLast?_steps_join isName_dropIn) isName_dropIn absent written
    have own := agrees.read.trans (Disk.read_write absent written)
    exact ⟨removed, runIn_removeDropIn_own (by rwa [path]) (by rwa [path]), restored⟩
  · have foreign : HoldsForeign later := ⟨content, by rw [path, agrees.read, found], different⟩
    exact ⟨later.disk, runIn_removeDropIn_foreign foreign, fun _ => agrees⟩

end DroppedIn

/-! ## Meanwhile -/

end RuntimeEnvironment

/-- A call that may come between setting up and cleaning up: the environment is
set up once more, or another prefix comes in use. -/
def EnvironmentCall.Meanwhile (pre : String) : EnvironmentCall → Prop
  | setUp other => other = pre
  | cleanUp _ => False
  | usePrefix _ => True

namespace RuntimeEnvironment

/-- A world that is another one but for the prefix in use. -/
def Switched (world later : World) : Prop :=
  ∃ used, Host.isTablePrefix used ∧
    later = { world with host := { world.host with tablePrefix := used } }

theorem runIn_setUp_again {disk : Disk} {used : String} (ready : Ready pre world)
    (dropped : DroppedIn world disk) (usable : Host.isTablePrefix used) :
    let later : World :=
      { world with disk, host := { equipped pre world.host with tablePrefix := used } }
    (setUp pre).runIn later = (.ok (), later) := by
  intro later
  have standing : later.host.tablesUnder pre ≠ [] :=
    List.ne_nil_of_mem (options_mem_equipped ready.tables)
  have ran := @runIn_setUp pre later usable ready.wellFormed
  rw [ran, equipped_of_tables standing]
  exact DroppedIn.runIn_writeDropIn dropped (dropInPath_equipped pre world.host).1

/-- Cleaning up an environment that stands gives back the site, and then sees to
the drop-in file. -/
theorem runIn_cleanUp_housed {used : String} (ready : Ready pre world)
    (usable : Host.isTablePrefix used) (files : Disk) :
    (cleanUp pre).runIn
        { world with disk := files, host := { equipped pre world.host with tablePrefix := used } } =
      removeDropIn.runIn
        { world with
          disk := files
          host := { world.host with
            tablePrefix := if used == pre then world.host.sitePrefix else used } } := by
  let later : World :=
    { world with disk := files, host := { equipped pre world.host with tablePrefix := used } }
  have own : Host.isTablePrefix later.host.sitePrefix := by
    rw [(dropInPath_equipped pre world.host).2]
    exact ready.lawful.sitePrefix
  have ran := @runIn_cleanUp pre later usable own
  rwa [stripped_equipped ready.lawful ready.wellFormed ready.notOwn ready.tables] at ran

/-- So the drop-in file goes that was written, and one that someone else put in
its place stays. -/
theorem exists_cleaned {disk : Disk} {used : String} (ready : Ready pre world)
    (dropped : DroppedIn world disk) (usable : Host.isTablePrefix used) (files : Disk) :
    let later : World :=
      { world with disk := files, host := { equipped pre world.host with tablePrefix := used } }
    files.AgreesAt (dropInPath world.host) disk ∨ HoldsForeign later →
      ∃ cleaned, (cleanUp pre).runIn later = (.ok (), cleaned) ∧
        cleaned.host = { world.host with
          tablePrefix := if used == pre then world.host.sitePrefix else used } ∧
        (files.AgreesAt (dropInPath world.host) disk →
          Assoc.Ascending Disk.locationLess files.entries →
            cleaned.disk.AgreesAt (dropInPath world.host) world.disk) ∧
        (files = disk → cleaned.disk = world.disk) ∧ (HoldsForeign later → cleaned.disk = files) := by
  intro later dropIn
  rw [runIn_cleanUp_housed ready usable files]
  let restored : World :=
    { world with
      disk := files
      host := { world.host with tablePrefix := if used == pre then world.host.sitePrefix else used } }
  have writtenGoes (agrees : files.AgreesAt (dropInPath world.host) disk) :=
    @DroppedIn.exists_removed _ restored _ dropped rfl agrees
  have foreignStays (foreign : HoldsForeign later) : removeDropIn.runIn restored = (.ok (), restored) :=
    runIn_removeDropIn_foreign (foreign.congr rfl (dropInPath_equipped pre world.host).1.symm)
  obtain ⟨left, ran⟩ : ∃ left, removeDropIn.runIn restored = (.ok (), { restored with disk := left }) := by
    rcases dropIn with agrees | foreign
    · obtain ⟨removed, ran, -⟩ := writtenGoes agrees
      exact ⟨removed, ran⟩
    · exact ⟨files, foreignStays foreign⟩
  -- removing the drop-in file leaves one tree, so each way to know it says the same
  have unique {after : World} (known : removeDropIn.runIn restored = (.ok (), after)) :
      left = after.disk :=
    congrArg (fun outcome => outcome.2.disk) (ran.symm.trans known)
  refine ⟨_, ran, rfl, fun agrees ordered => ?_, ?_, fun foreign => unique (foreignStays foreign)⟩
  · obtain ⟨removed, known, restoredAt⟩ := writtenGoes agrees
    rw [show left = removed from unique known]
    exact restoredAt ordered
  · rintro rfl
    have undone := unique (@DroppedIn.runIn_removeDropIn _ restored dropped rfl)
    exact undone

theorem Switched.perform {disk : Disk} {later : World} {call : EnvironmentCall} (ready : Ready pre world)
    (dropped : DroppedIn world disk) (meanwhile : call.Meanwhile pre)
    (switched : Switched { world with disk, host := equipped pre world.host } later) :
    Switched { world with disk, host := equipped pre world.host } (call.perform later) := by
  obtain ⟨used, usable, rfl⟩ := switched
  cases call with
  | setUp other =>
    obtain rfl : other = pre := meanwhile
    refine ⟨used, usable, ?_⟩
    have again := runIn_setUp_again ready dropped usable
    exact congrArg Prod.snd again
  | cleanUp _ => exact meanwhile.elim
  | usePrefix next =>
    unfold EnvironmentCall.perform EnvironmentCall.action
    rw [Act.runIn_tryHost]
    by_cases wellFormed : Host.isTablePrefix next
    · rw [useTablePrefix_of_isTablePrefix _ wellFormed]
      exact ⟨next, wellFormed, rfl⟩
    · rw [useTablePrefix_of_not_isTablePrefix _ wellFormed]
      exact ⟨used, usable, rfl⟩

/-! ## There and back -/

/-- Where the runtime environment can be set up, this succeeds, leaves the prefix
in use and gives all tables and the active plugins of that prefix; doing it again
changes nothing.  Cleaning up then gives back the site and its files, whatever
prefix is in use by then; the prefix stays in use unless its tables are the ones
that go.  A file that someone else puts in the place of the drop-in file stays as
it is from then on. -/
theorem setUp_cleanUp_roundTrip (pre : String) (world : World) (ready : Ready pre world) :
    (∃ housed, (setUp pre).runIn world = (.ok (), housed) ∧
      housed.host.tablePrefix = world.host.tablePrefix ∧
      Furnished pre world.host.storedActivePlugins housed.host ∧
      (setUp pre).runIn housed = (.ok (), housed) ∧
      ∀ (between : List EnvironmentCall) (disk : Disk), (∀ call ∈ between, call.Meanwhile pre) →
        let later : World := { EnvironmentCall.performAll housed between with disk }
        disk.AgreesAt (dropInPath world.host) housed.disk ∨ HoldsForeign later →
          ∃ cleaned, (cleanUp pre).runIn later = (.ok (), cleaned) ∧
            cleaned.host = { world.host with
              tablePrefix :=
                if later.host.tablePrefix == pre then world.host.sitePrefix
                else later.host.tablePrefix } ∧
            (disk.AgreesAt (dropInPath world.host) housed.disk →
              Assoc.Ascending Disk.locationLess disk.entries →
                cleaned.disk.AgreesAt (dropInPath world.host) world.disk) ∧
            (disk = housed.disk → cleaned.disk = world.disk) ∧
            (HoldsForeign later → cleaned.disk = disk)) ∧
    ∀ (before after : List EnvironmentCall) (disk : Disk),
      let replaced : World := { EnvironmentCall.performAll world before with disk }
      HoldsForeign replaced → (EnvironmentCall.performAll replaced after).disk = disk := by
  constructor
  · obtain ⟨disk, dropped, ran⟩ := ready.runIn_setUp
    obtain ⟨_, _, same⟩ := exists_equipped_eq pre world.host
    have inUse : (equipped pre world.host).tablePrefix = world.host.tablePrefix := by rw [same]
    refine ⟨_, ran, inUse, furnished_equipped ready.tables, ?_, fun between files meanwhile => ?_⟩
    · have again := runIn_setUp_again ready dropped ready.lawful.tablePrefix
      rw [← inUse] at again
      exact again
    · have switched : Switched { world with disk, host := equipped pre world.host }
          (EnvironmentCall.performAll { world with disk, host := equipped pre world.host } between) := by
        refine EnvironmentCall.performAll_keeps (Switched _)
          (fun call member => Switched.perform ready dropped (meanwhile call member)) ?_
        exact ⟨world.host.tablePrefix, ready.lawful.tablePrefix, by rw [← inUse]⟩
      obtain ⟨used, usable, later_eq⟩ := switched
      rw [later_eq]
      exact exists_cleaned ready dropped usable files
  · intro before after disk replaced foreign
    have lawful : replaced.host.Lawful := EnvironmentCall.performAll_lawful ready.lawful before
    exact EnvironmentCall.disk_performAll_foreign lawful foreign after

/-- There and back on a site with a content directory, with the prefix of the
tables in use when they go. -/
theorem roundTrip_quietSite :
    let world := Rehearsal.quietSite [["site"], ["site", "wp-content"]]
    Ready "wppc_" world ∧ ∃ housed, (setUp "wppc_").runIn world = (.ok (), housed) ∧
      Furnished "wppc_" [] housed.host ∧
      let later : World :=
        { EnvironmentCall.performAll housed [.setUp "wppc_", .usePrefix "wppc_"] with
          disk := housed.disk }
      ∃ cleaned, (cleanUp "wppc_").runIn later = (.ok (), cleaned) ∧
        cleaned.host.tables = world.host.tables ∧ cleaned.disk = world.disk := by
  intro world
  have located : world.disk.locate world.host.contentDirectory = .ok ["site", "wp-content"] := by
    have path : world.host.contentDirectory = ⟨"site/wp-content"⟩ := by
      show (Host.simulated ⟨"site"⟩ { plugins := Rehearsal.busyPlugins }).contentDirectory = _
      decide
    have names : Disk.steps "site/wp-content" = ["site", "wp-content"] := by decide
    have relative : (Path.mk "site/wp-content").isAbsolute = false := by decide
    rw [path]
    simp [Disk.locate, Disk.place, names, relative, world, Rehearsal.quietSite, Disk.empty,
      Disk.followFrom, Disk.entry?, Assoc.get?]
  have isDirectory : world.disk.entry? ["site", "wp-content"] = some .directory := rfl
  have ready : Ready "wppc_" world :=
    { lawful := .simulated _ _
      wellFormed := by decide
      notOwn := by decide
      tables := Host.tablesUnder_fresh _ _ _ (by decide)
      dropIn := .inl ⟨Disk.hasEntry_join located isDirectory isName_dropIn, _, located, isDirectory,
        List.not_mem_nil⟩ }
  obtain ⟨⟨housed, ran, -, furnished, -, back⟩, -⟩ := setUp_cleanUp_roundTrip "wppc_" world ready
  have meanwhile : ∀ call ∈ [EnvironmentCall.setUp "wppc_", .usePrefix "wppc_"],
      call.Meanwhile "wppc_" := by
    intro call member
    simp only [List.mem_cons, List.not_mem_nil, or_false] at member
    rcases member with rfl | rfl
    · rfl
    · trivial
  obtain ⟨cleaned, cleaning, host, -, undone, -⟩ := back _ housed.disk meanwhile (.inl (.refl _ _))
  exact ⟨ready, housed, ran, furnished, cleaned, cleaning, by rw [host], undone rfl⟩

end RuntimeEnvironment

end PluginAudit
