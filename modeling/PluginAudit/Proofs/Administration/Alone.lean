import PluginAudit.Proofs.Administration.Clients

/-!
# Clients that are answered as if they were alone

A client gets the answer that it would get alone, but for the numbers of posts, as long as nobody
else has removed the environment that it needs.
-/

namespace PluginAudit

open RuntimeEnvironment

variable {start world : World}

/-! ## Numbers -/

/-- Whether one of the insertions into a site is to fail. -/
def Runtime.isToFail : Runtime → Bool
  | simulated simulation => simulation.failingInsertion.isSome
  | installed _ => false

theorem Runtime.due_recording (runtime : Runtime) (insertions : Nat) (requested visited : List String) :
    (runtime.recording insertions requested).due =
      (runtime.recording (if runtime.isToFail then insertions else runtime.insertions) visited).due := by
  cases runtime with
  | installed root => rfl
  | simulated simulation =>
    simp only [recording, due, isToFail]
    split <;> simp_all

namespace World

/-- The residue of a world, with the numbers of another one: for its next post and, where an
insertion is to fail, for its next insertion. -/
def renumbering (start world : World) : Residue :=
  { start.residue with
    nextPost := world.host.nextPost
    insertions :=
      if start.host.runtime.isToFail then world.host.runtime.insertions else start.host.runtime.insertions }

def renumbered (start world : World) : World := start.withResidue (start.renumbering world)

theorem renumbered_of_tally (same : world.tally = start.tally) : start.renumbered world = start := by
  obtain ⟨nextPost, insertions⟩ := Prod.mk.inj same
  have own : start.renumbering world = start.residue := by
    rw [renumbering, nextPost, insertions, ite_self]
    rfl
  rw [renumbered, own, withResidue_residue]

theorem gist_withResidue (world : World) (left : Residue) :
    (world.withResidue left).gist =
      { disk := world.disk
        searchPath := world.searchPath
        host :=
          { world.host with
            filters := {}
            posts := []
            nextPost := left.nextPost
            runtime := (world.host.runtime.recording left.insertions left.requested).due }
        answers := world.host.filters.apply } := rfl

end World

namespace Administration

variable {a : Administration} {q : AdminRequest}

/-! ## What a client is answered -/

/-- The answer to a client that runs its checks, where nobody else sends requests. -/
def answerAlone (a : Administration) (q : AdminRequest) (world : World) : AdminResponse :=
  (a.handle (q.asking .runChecks) (a.handle (q.asking .setUpEnvironment) world).2).1

/-- Alone, a client runs its checks with an environment just where it selects runtime checks. -/
theorem answerAlone_eq (sound : a.Sound start) (q : AdminRequest) (left : Residue) :
    a.answerAlone q (start.withResidue left) = (a.handle (q.asking .runChecks)
      ((a.stage start (a.selectsRuntime q start)).withResidue left)).1 := by
  rw [answerAlone, world_setUp sound]

/-- At the two stages a client is answered the same, whatever was left behind, if carrying out its
run comes to the same. -/
theorem answer_congr (sound : a.Sound start) (q : AdminRequest) {stands stands' : Bool} {left left' : Residue}
    (same : ∀ target, ((a.clientRun q start.host).resolve start).outcome = .ok target →
      start.host.acceptsNonce q.nonce AdminAction.nonceAction →
      (((a.clientRun q start.host).carryOut target).runIn ((a.stage start stands).withResidue left)).1 =
        (((a.clientRun q start.host).carryOut target).runIn ((a.stage start stands').withResidue left')).1) :
    (a.handle (q.asking .runChecks) ((a.stage start stands).withResidue left)).1 =
      (a.handle (q.asking .runChecks) ((a.stage start stands').withResidue left')).1 := by
  simp only [handle_eq, runIn_dispatch_asking, acceptsNonce_stage, clientRun_stage]
  split
  · rename_i accepted
    have agree := agree_stage sound accepted start.host stands left
    have agree' := agree_stage sound accepted start.host stands' left'
    have executed := (agree.trans agree'.symm).execute rfl rfl rfl fun target resolved =>
      same target (by rwa [← agree.resolve rfl]) accepted
    simp only [act, runIn_answerFindings, executed]
  · rfl

/-- With the same numbers, the site is alike at one stage, whatever was left behind. -/
theorem alike_stage (sound : a.Sound start) (stands : Bool) {now : World} (aged : now.Aged start.host.nextPost) :
    World.Alike ((a.stage start stands).withResidue now.residue)
      ((a.stage start stands).withResidue (start.renumbering now)) where
  gist := by
    rw [World.gist_withResidue, World.gist_withResidue, runtime_stage, start.host.runtime.due_recording]
    rfl
  older := aged.older
  older' entry member := (sound.lawful.posts entry member).trans_le aged.later

/-- No path into the plugin of a client leads to the drop-in file of the environment or through its
place. -/
structure DropInAside (a : Administration) (q : AdminRequest) (start : World) : Prop where
  tree : start.disk.IsTree
  paths : ∀ target, ((a.clientRun q start.host).resolve start).outcome = .ok target →
    start.disk.LeadsAlike target.audit.context (start.housed a.settings.testingPrefix).disk

/-- With an environment there is at most one more file. -/
theorem disk_housed (lawful : start.host.Lawful) (tree : start.disk.IsTree) (pre : String) :
    (start.housed pre).disk = start.disk ∨ ∃ directory name content, Disk.IsName name ∧
      start.disk.entry? directory = some .directory ∧ start.disk.entry? (directory ++ [name]) = none ∧
      (start.housed pre).disk = start.disk.put (directory ++ [name]) (.file content false) := by
  unfold World.housed
  by_cases wellFormed : Host.isTablePrefix pre
  · rw [runIn_setUp lawful.tablePrefix wellFormed]
    by_cases present : start.disk.pathExists (dropInPath (equipped pre start.host))
    · rw [@runIn_writeDropIn_present { start with host := equipped pre start.host } present]
      exact .inl rfl
    · have missing : start.disk.pathExists (dropInPath (equipped pre start.host)) = false := by simpa using present
      rw [@runIn_writeDropIn_missing { start with host := equipped pre start.host } missing]
      dsimp only
      cases written : start.disk.write (dropInPath (equipped pre start.host)) dropInBytes with
      | error fault => exact .inl rfl
      | ok disk =>
        obtain ⟨directory, name, isName, isDirectory, free, same⟩ := Disk.exists_put_of_write tree missing written
        exact .inr ⟨directory, name, dropInBytes, isName, isDirectory, free, same⟩
  · obtain ⟨e, refused⟩ := runIn_setUp_refused wellFormed start
    rw [refused]
    exact .inl rfl

/-- A client without runtime checks is answered as without an environment, whatever was left behind. -/
theorem answer_static (sound : a.Sound start) {q : AdminRequest} (static : a.selectsRuntime q start = false)
    {stands : Bool} (aside : stands = true → a.DropInAside q start) (left left' : Residue) :
    (a.handle (q.asking .runChecks) ((a.stage start stands).withResidue left)).1 =
      (a.handle (q.asking .runChecks) ((a.stage start false).withResidue left')).1 := by
  refine answer_congr sound q fun target resolved accepted => ?_
  obtain ⟨distinct, modest⟩ := known_of_resolve sound resolved
  have isStatic : target.selected.hasRuntime = false := by
    simpa [selectsRuntime, accepted, resolved] using static
  have path : (a.stage start stands).searchPath = start.searchPath :=
    stage_spares World.searchPath (fun _ _ _ _ _ => rfl) a start stands
  have files : target.audit.context.SameFiles start.disk (a.stage start stands).disk := by
    cases stands with
    | false => exact .inl rfl
    | true =>
      obtain ⟨tree, paths⟩ := aside rfl
      exact (disk_housed sound.lawful tree a.settings.testingPrefix).imp_right fun gained =>
        ⟨tree, gained, paths target resolved⟩
  obtain ⟨reads, ran⟩ := Run.runIn_carryOut_files modest isStatic ((a.stage start stands).withResidue left)
  rw [ran, (Run.runIn_carryOut_files modest isStatic ((a.stage start false).withResidue left')).2]
  exact Run.outcome_runChecks_files distinct modest reads files path

/-- A client finds what it needs: an environment if it selects runtime checks, and otherwise none, or
one that lies aside. -/
def Suits (a : Administration) (q : AdminRequest) (start : World) : Bool → Prop
  | true => a.selectsRuntime q start = true ∨ a.DropInAside q start
  | false => a.selectsRuntime q start = false

/-- Whatever requests clients have sent before, one that finds what it needs is answered as it would
be alone on the site of the start, with the numbers that are next for posts now.  It is answered as
it would be alone on the site of the start itself if it selects no runtime checks, or no client that
does has had its checks run.  No environment that was there at the start must have been removed. -/
theorem answer_eq_alone {ι : Type} (a : Administration) (clients : ι → AdminRequest) (start : World)
    (before : List (ι × AdminAction)) (me : ι) (sound : a.Sound start)
    (removable : a.Removable start clients before)
    (suits : a.Suits (clients me) start
      (standsAfter (fun client => a.selectsRuntime (clients client) start) before)) :
    let now := a.answerAll start (requestsOf clients before)
    let answer := (a.handle ((clients me).asking .runChecks) now).1
    answer = a.answerAlone (clients me) (start.renumbered now) ∧
      (a.selectsRuntime (clients me) start = false ∨
          (∀ step ∈ before, step.2 = .runChecks → a.selectsRuntime (clients step.1) start = false) →
        answer = a.answerAlone (clients me) start) := by
  intro now answer
  have stage : now = (a.stage start _).withResidue now.residue := answerAll_eq_stage sound removable
  have aged : now.Aged start.host.nextPost := aged_answerAll sound ⟨sound.lawful.posts, le_rfl⟩ before
  have answered := congrArg (fun world => (a.handle ((clients me).asking .runChecks) world).1) stage
  -- a client without runtime checks does not look at numbers
  have static (notRuntime : a.selectsRuntime (clients me) start = false) (left : Residue) :
      answer = a.answerAlone (clients me) (start.withResidue left) := by
    rw [answerAlone_eq sound, notRuntime]
    refine answered.trans (answer_static sound notRuntime (fun stands => ?_) _ left)
    rw [stands] at suits
    exact suits.resolve_left (by simp [notRuntime])
  have alone : answer = a.answerAlone (clients me) (start.renumbered now) := by
    cases selects : a.selectsRuntime (clients me) start with
    | false => exact static selects _
    | true =>
      have stands : standsAfter (fun client => a.selectsRuntime (clients client) start) before = true := by
        by_contra none
        rw [eq_false_of_ne_true none] at suits
        cases selects.symm.trans suits
      rw [World.renumbered, answerAlone_eq sound, selects]
      refine answered.trans ?_
      rw [stands]
      refine answer_congr sound (clients me) fun target resolved _ => ?_
      obtain ⟨distinct, modest⟩ := known_of_resolve sound resolved
      exact Run.outcome_carryOut_alike (alike_stage sound true aged) rfl (sound.lawful_stage true).tablePrefix
        distinct modest
  refine ⟨alone, fun unnumbered => ?_⟩
  rcases unnumbered with notRuntime | noRun
  · exact (static notRuntime start.residue).trans (by rw [World.withResidue_residue])
  · have first : Intact (a.stage start false) start := .refl sound.lawful
    rw [alone, World.renumbered_of_tally (tally_answerAll sound first removable noRun)]

/-- A client with a single check, which is no runtime check, gets findings just if the check does not
break. -/
theorem success_single (sound : a.Sound start)
    (accepted : start.host.acceptsNonce q.nonce AdminAction.nonceAction) {target : RunTarget} {slug : String}
    {check : Check} (resolved : ((a.clientRun q start.host).resolve start).outcome = .ok target)
    (single : target.selected.entries = [(slug, check)]) (static : check.isRuntime = false) (stands : Bool)
    (left : Residue) :
    (a.handle (q.asking .runChecks) ((a.stage start stands).withResidue left)).1.success =
      (check.run target.audit.context ((a.stage start stands).withResidue left)).1.failure.isNone := by
  obtain ⟨distinct, modest⟩ := known_of_resolve sound resolved
  have agree := agree_stage sound accepted start.host stands left
  have spares : ∀ extension ∈ (a.clientRun q start.host).extensions, extension.Spares id := List.forall_mem_nil _
  have unchanged : ((a.clientRun q start.host).resolve ((a.stage start stands).withResidue left)).world =
      (a.stage start stands).withResidue left := Run.resolve_spares spares _
  have executed := (Run.execute_new rfl rfl ((agree.resolve rfl).trans resolved)).1
  have noRuntime : target.selected.hasRuntime = false := by simp [CheckCollection.hasRuntime, single, static]
  obtain ⟨reads, ran⟩ :=
    Run.runIn_carryOut_files (r := a.clientRun q start.host) modest noRuntime ((a.stage start stands).withResidue left)
  have unprepared : check.preparation = none := (reads (slug, check) (by simp [single])).unprepared
  rw [unchanged, ran, Run.runIn_runChecks_known distinct, single] at executed
  rw [handle_eq, runIn_dispatch_asking, acceptsNonce_stage, if_pos accepted, clientRun_stage]
  simp only [act, runIn_answerFindings, executed, Audit.runEntries, Audit.runCheck, unprepared, Audit.runPlain,
    Findings.none]
  cases (check.run target.audit.context ((a.stage start stands).withResidue left)).1.failure <;> rfl

end Administration

-- sites are compared field by field below, which must not spell out the tables
attribute [local irreducible] Host.coreTablesUnder

namespace Rehearsal

/-! ## Sites of clients -/

/-- A built-in check that reads files and one that visits pages. -/
def pageChecks : CheckRepository :=
  ⟨[("trademarks", Trademarks.check [])], [("scripts_size", EnqueuedAssets.sizeCheck .script 0)]⟩

abbrev administration : Administration := { repository := pageChecks }

/-- A client that asks for checks of a plugin, for all of them if it names none. -/
def clientOf (checks : List String) : AdminRequest :=
  { action := AdminAction.listChecks.name, nonce := "secret", plugin := "foo/foo.php", checks }

/-- A file tree with a plugin. -/
def sharedDisk : Disk where
  entries :=
    [(["site"], .directory), (["site", "wp-content"], .directory), (["site", "wp-content", "plugins"], .directory),
      (["site", "wp-content", "plugins", "foo"], .directory),
      (["site", "wp-content", "plugins", "foo", "foo.php"], .file "<?php\n// Plugin Name: Foo".toUTF8 false)]
  workingDirectory := []

/-- The plugin loads a script on all pages while it is active. -/
def sharedSimulation : Simulation where
  plugins := busyPlugins
  postTypes := ["page"]
  nonces := [(AdminAction.nonceAction, "secret")]
  assets := [
    { plugin := "foo/foo.php"
      onlyAt := none
      asset :=
        { handle := "foo"
          kind := .script
          source := "http://example.org/wp-content/plugins/foo/foo.js"
          path := none
          size := 1 } }]

def sharedSite : World where
  disk := sharedDisk
  host := (Host.simulated ⟨"site"⟩ sharedSimulation).withActivePlugins ["foo/foo.php"]

/-- The checks are sound wherever plugins are known. -/
theorem sound_pageChecks (lawful : start.host.Lawful) : Administration.Sound administration start where
  lawful := lawful
  distinct := by decide
  modest := by
    intro entry member
    simp only [pageChecks, List.singleton_append, List.mem_cons, List.not_mem_nil, or_false] at member
    rcases member with rfl | rfl
    · exact .inl (.ofFiles (Trademarks.look_beside _) _ _ _)
    · exact .inr (EnqueuedAssets.IsAssetCheck.size .script 0).visitsPages
  steady := by
    intro entry member
    simp only [pageChecks, List.singleton_append, List.mem_cons, List.not_mem_nil, or_false] at member
    rcases member with rfl | rfl <;> exact ⟨fun _ => rfl, fun _ => rfl⟩

/-! ### The place of the drop-in file -/

def dropInPlace : Location := ["site", "wp-content", "object-cache.php"]

/-- A world with the drop-in file in its place. -/
def droppedIn (world : World) : Disk := world.disk.put dropInPlace (.file dropInBytes false)

/-- A world with an environment. -/
def withEnvironment (world : World) : World :=
  { world with disk := droppedIn world, host := equipped "wppc_" world.host }

/-- There is a directory for the drop-in file, which it lacks, and there are no tables for an
environment. -/
structure TakesEnvironment (world : World) : Prop where
  path : dropInPath world.host = ⟨"site/wp-content/object-cache.php"⟩
  start : world.disk.workingDirectory = []
  directories : world.disk.entry? [] = some .directory ∧ world.disk.entry? ["site"] = some .directory ∧
    world.disk.entry? ["site", "wp-content"] = some .directory
  free : world.disk.entry? dropInPlace = none
  unsealed : world.disk.isSealed dropInPlace = false
  noTables : world.host.tablesUnder "wppc_" = []
  prefixes : world.host.sitePrefix = "wp_" ∧ world.host.tablePrefix = "wp_"
  lawful : world.host.Lawful

namespace TakesEnvironment

theorem place (takes : TakesEnvironment world) (follow : Bool) :
    world.disk.place follow (dropInPath world.host) = .ok ⟨dropInPlace, false⟩ := by
  have names : Disk.steps "site/wp-content/object-cache.php" = dropInPlace := by decide
  obtain ⟨root, site, content⟩ := takes.directories
  have free := takes.free
  rw [takes.path, Disk.place, names]
  simp only [dropInPlace] at free ⊢
  simp [Disk.followFrom, Path.isAbsolute, takes.start, root, site, content, free]

theorem absent (takes : TakesEnvironment world) : world.disk.hasEntry (dropInPath world.host) = false := by
  rw [Disk.hasEntry, takes.place]

theorem written (takes : TakesEnvironment world) :
    world.disk.write (dropInPath world.host) dropInBytes = .ok (droppedIn world) := by
  rw [Disk.write, takes.place]
  simp [takes.free, takes.unsealed, droppedIn]

theorem housed (takes : TakesEnvironment world) : world.housed "wppc_" = withEnvironment world := by
  have path := (dropInPath_equipped "wppc_" world.host).1
  have absent := takes.absent
  have written := takes.written
  unfold World.housed
  rw [runIn_setUp takes.lawful.tablePrefix (by decide), runIn_writeDropIn_written (by rwa [path]) (by rwa [path])]
  rfl

/-- Such a site is as it was before, once an environment was set up and removed. -/
theorem bare (takes : TakesEnvironment world) : Bare "wppc_" world := by
  obtain ⟨own, inUse⟩ := takes.prefixes
  have different : "wppc_" ≠ "wp_" := by decide
  exact ⟨takes.noTables, own ▸ different, inUse ▸ different.symm, .inl takes.absent⟩

end TakesEnvironment

theorem dropInPath_simulated (simulation : Simulation) :
    dropInPath (.simulated ⟨"site"⟩ simulation) = ⟨"site/wp-content/object-cache.php"⟩ := by
  -- the path does not depend on the simulation
  show dropInPath (.simulated ⟨"site"⟩ {}) = _
  decide

/-- A simulated site has no tables for an environment. -/
theorem tablesUnder_simulated (simulation : Simulation) :
    (Host.simulated ⟨"site"⟩ simulation).tablesUnder "wppc_" = [] :=
  Host.tablesUnder_fresh _ _ _ (by decide)

theorem takes_sharedSite : TakesEnvironment sharedSite where
  path := dropInPath_simulated sharedSimulation
  start := rfl
  directories := ⟨rfl, rfl, rfl⟩
  free := rfl
  unsealed := rfl
  noTables := tablesUnder_simulated sharedSimulation
  prefixes := ⟨rfl, rfl⟩
  lawful := (Host.Lawful.simulated _ _).withActivePlugins _

/-- The shared site where the first insertion fails. -/
def failingSite : World :=
  { sharedSite with
    host := (Host.simulated ⟨"site"⟩ { sharedSimulation with failingInsertion := some 0 }).withActivePlugins
      ["foo/foo.php"] }

/-- The shared site with an environment from before its plugin was active. -/
def staleSite : World :=
  { sharedSite with
    disk := droppedIn sharedSite
    host := (equipped "wppc_" (.simulated ⟨"site"⟩ sharedSimulation)).withActivePlugins ["foo/foo.php"] }

theorem takes_failingSite : TakesEnvironment failingSite :=
  { takes_sharedSite with
    path := dropInPath_simulated sharedSimulation
    noTables := tablesUnder_simulated sharedSimulation
    lawful := (Host.Lawful.simulated _ _).withActivePlugins _ }

theorem lawful_staleSite : staleSite.host.Lawful :=
  (equipped_lawful (.simulated _ _) (by decide)).withActivePlugins _

/-- The environment is nothing but tables and what is stored in them. -/
theorem exists_staleSite_eq : ∃ tables active, staleSite.host = { sharedSite.host with tables, active } := by
  obtain ⟨tables, active, same⟩ := exists_equipped_eq "wppc_" (.simulated ⟨"site"⟩ sharedSimulation)
  refine ⟨tables, Assoc.put textLess "wp_" ["foo/foo.php"] active, ?_⟩
  simp only [staleSite, same, Host.withActivePlugins]
  rfl

theorem tablesUnder_staleSite : staleSite.host.tablesUnder "wppc_" ≠ [] := by
  have same : staleSite.host.tablesUnder "wppc_" =
      (equipped "wppc_" (.simulated ⟨"site"⟩ sharedSimulation)).tablesUnder "wppc_" :=
    Host.tablesUnder_withActivePlugins _ _ _
  rw [same]
  exact List.ne_nil_of_mem (options_mem_equipped (tablesUnder_simulated sharedSimulation))

theorem housed_staleSite : staleSite.housed "wppc_" = staleSite := by
  have same : equipped "wppc_" staleSite.host = staleSite.host := equipped_of_tables tablesUnder_staleSite
  have content : staleSite.host.contentDirectory = sharedSite.host.contentDirectory := by
    obtain ⟨tables, active, host⟩ := exists_staleSite_eq
    rw [host]
  have path : dropInPath staleSite.host = dropInPath sharedSite.host := congrArg (Path.join · _) content
  have present : staleSite.disk.pathExists (dropInPath staleSite.host) := by
    rw [path]
    exact Disk.pathExists_of_read (Disk.read_write takes_sharedSite.absent takes_sharedSite.written)
  have ran : (setUp "wppc_").runIn staleSite = (.ok (), staleSite) := by
    rw [runIn_setUp lawful_staleSite.tablePrefix (by decide), same]
    exact runIn_writeDropIn_present present
  rw [World.housed, ran]

theorem stripped_staleSite : stripped "wppc_" staleSite.host = sharedSite.host := by
  have noTables := tablesUnder_simulated sharedSimulation
  have tables : staleSite.host.tables.filter (fun table => decide (table ∉ Host.coreTablesUnder "wppc_")) =
      sharedSite.host.tables := tables_equipped noTables
  have active : Assoc.erase "wppc_" staleSite.host.active = sharedSite.host.active := by
    simp only [staleSite, Host.withActivePlugins, equipped, noTables, List.isEmpty_nil, if_true]
    decide
  obtain ⟨installed, stored, host⟩ := exists_staleSite_eq
  have notOwn : "wppc_" ≠ staleSite.host.sitePrefix := by
    rw [host]
    exact (by decide : "wppc_" ≠ sharedSite.host.sitePrefix)
  rw [stripped_eq lawful_staleSite.storage notOwn, tables, active]
  simp only [host]
  rfl

theorem cleanUp_staleSite : ((cleanUp "wppc_").runIn staleSite).2 = sharedSite := by
  have removed : removeDropIn.runIn { staleSite with host := sharedSite.host } = (.ok (), sharedSite) :=
    runIn_removeDropIn_written takes_sharedSite.absent takes_sharedSite.written
  rw [runIn_cleanUp lawful_staleSite.tablePrefix lawful_staleSite.sitePrefix, stripped_staleSite, removed]

/-- A site with a plugin that is a single file, which is a link to the place of the drop-in file. -/
def linkedSite : World where
  disk :=
    { entries :=
        [(["site"], .directory), (["site", "wp-content"], .directory), (["site", "wp-content", "plugins"], .directory),
          (["site", "wp-content", "plugins", "foo.php"], .link "../object-cache.php")]
      workingDirectory := [] }
  host := .simulated ⟨"site"⟩ { sharedSimulation with plugins := ("foo.php", default) :: busyPlugins }

theorem takes_linkedSite : TakesEnvironment linkedSite where
  path := dropInPath_simulated sharedSimulation
  start := rfl
  directories := ⟨rfl, rfl, rfl⟩
  free := rfl
  unsealed := rfl
  noTables := tablesUnder_simulated sharedSimulation
  prefixes := ⟨rfl, rfl⟩
  lawful := .simulated _ _

/-- The main file of the plugin is there just while there is an environment. -/
theorem read_linkedSite :
    linkedSite.disk.read ⟨"site/wp-content/plugins/foo.php"⟩ = .error .missing ∧
      (droppedIn linkedSite).read ⟨"site/wp-content/plugins/foo.php"⟩ = .ok dropInBytes := by
  have names : Disk.steps "site/wp-content/plugins/foo.php" = ["site", "wp-content", "plugins", "foo.php"] ∧
      Disk.steps "../object-cache.php" = ["..", "object-cache.php"] := by decide
  obtain ⟨root, site, content, plugins, link⟩ : linkedSite.disk.entry? [] = some .directory ∧
      linkedSite.disk.entry? ["site"] = some .directory ∧
      linkedSite.disk.entry? ["site", "wp-content"] = some .directory ∧
      linkedSite.disk.entry? ["site", "wp-content", "plugins"] = some .directory ∧
      linkedSite.disk.entry? ["site", "wp-content", "plugins", "foo.php"] = some (.link "../object-cache.php") :=
    ⟨rfl, rfl, rfl, rfl, rfl⟩
  have free : linkedSite.disk.entry? ["site", "wp-content", "object-cache.php"] = none := takes_linkedSite.free
  have dropped : Disk.entry? (droppedIn linkedSite) ["site", "wp-content", "object-cache.php"] =
      some (.file dropInBytes false) := Disk.entry?_put_self free
  have beside {other : Location} (different : other ≠ dropInPlace) :
      Disk.entry? (droppedIn linkedSite) other = linkedSite.disk.entry? other := Disk.entry?_put_other different
  have start : linkedSite.disk.workingDirectory = [] ∧ (droppedIn linkedSite).workingDirectory = [] := ⟨rfl, rfl⟩
  constructor
  · simp [Disk.read, Disk.locate, Disk.place, names, Disk.followFrom, Disk.maximalLinks, Path.isAbsolute, start,
      root, site, content, plugins, link, free]
  · simp [Disk.read, Disk.locate, Disk.place, names, Disk.followFrom, Disk.maximalLinks, Path.isAbsolute, start,
      (beside (by decide)).trans root, (beside (by decide)).trans site, (beside (by decide)).trans content,
      (beside (by decide)).trans plugins, (beside (by decide)).trans link, dropped]

/-- A client that has the file looked at. -/
def linkedClient : AdminRequest := { clientOf ["trademarks"] with plugin := "foo.php" }

/-- The check of a plugin that is a single file needs nothing but the file. -/
theorem failure_look_single {context : PluginContext} (single : context.isSingleFile) (terms : List String)
    (disk : Disk) : (Trademarks.look terms context disk).failure.isNone = (disk.read context.mainFile).isOk := by
  simp only [Trademarks.look, Trademarks.readmeOutcome, single, if_true, PluginContext.header, PluginHeader.read,
    Disk.readLossy]
  cases disk.read context.mainFile <;> rfl

theorem success_linkedClient (stands : Bool) :
    (administration.handle (linkedClient.asking .runChecks) (administration.stage linkedSite stands)).1.success =
      ((administration.stage linkedSite stands).disk.read ⟨"site/wp-content/plugins/foo.php"⟩).isOk := by
  have sound : administration.Sound linkedSite := sound_pageChecks takes_linkedSite.lawful
  have accepted : linkedSite.host.acceptsNonce linkedClient.nonce AdminAction.nonceAction := by decide
  cases resolved : ((administration.clientRun linkedClient linkedSite.host).resolve linkedSite).outcome with
  | error e => cases resolved
  | ok target =>
    have entries : target.selected.entries = [("trademarks", Trademarks.check [])] := by
      cases resolved
      rfl
    obtain ⟨mainFile, single⟩ : target.audit.context.mainFile = ⟨"site/wp-content/plugins/foo.php"⟩ ∧
        target.audit.context.isSingleFile := by
      cases resolved
      exact ⟨rfl, rfl⟩
    have answered := Administration.success_single sound accepted resolved entries rfl stands
      (administration.stage linkedSite stands).residue
    rw [World.withResidue_residue] at answered
    rw [answered, ← mainFile]
    exact failure_look_single single _ _

end Rehearsal

namespace Administration

open Rehearsal

theorem selectsRuntime_clientOf_all : selectsRuntime administration (clientOf []) sharedSite = true := rfl

theorem selectsRuntime_clientOf_trademarks :
    selectsRuntime administration (clientOf ["trademarks"]) sharedSite = false := rfl

/-- The drop-in file is not in the directory of the plugin, where there are no links. -/
theorem dropInAside_sharedSite : DropInAside administration (clientOf ["trademarks"]) sharedSite := by
  have tree : sharedSite.disk.IsTree := by decide +kernel
  refine ⟨tree, fun target resolved => ?_⟩
  obtain ⟨root, mainFile⟩ : target.audit.context.root = ⟨"site/wp-content/plugins/foo"⟩ ∧
      target.audit.context.mainFile = ⟨"site/wp-content/plugins/foo/foo.php"⟩ := by
    cases resolved
    exact ⟨rfl, rfl⟩
  have names : Disk.steps "site/wp-content/plugins/foo" = ["site", "wp-content", "plugins", "foo"] := by decide
  have fileNames : Disk.steps "site/wp-content/plugins/foo/foo.php" =
      ["site", "wp-content", "plugins", "foo", "foo.php"] := by decide
  have located : sharedSite.disk.locate target.audit.context.root = .ok ["site", "wp-content", "plugins", "foo"] := by
    rw [root, Disk.locate, Disk.place, names]
    simp [Disk.followFrom, sharedSite, sharedDisk, Disk.entry?, Assoc.get?, Path.isAbsolute]
  have present : sharedSite.disk.locate target.audit.context.mainFile =
      .ok ["site", "wp-content", "plugins", "foo", "foo.php"] := by
    rw [mainFile, Disk.locate, Disk.place, fileNames]
    simp [Disk.followFrom, sharedSite, sharedDisk, Disk.entry?, Assoc.get?, Path.isAbsolute]
  have linkFree : sharedSite.disk.LinkFree ["site", "wp-content", "plugins", "foo"] := by
    intro steps link found
    have member := Disk.mem_entries (by simp) found
    simp [sharedSite, sharedDisk] at member
  have beside := @Disk.GainsBeside.ofLinkFree sharedSite.disk _ "object-cache.php" dropInBytes target.audit.context
    ["site", "wp-content"] _ tree (by decide) (by decide) (by decide) located present linkFree (by decide)
  have housed : (sharedSite.housed "wppc_").disk = droppedIn sharedSite := congrArg World.disk takes_sharedSite.housed
  exact housed ▸ beside.paths

/-- Of two clients with all checks, one runs its checks before the other, and before a third one
that has a file looked at. -/
theorem answer_eq_alone_threeClients :
    let clients : Fin 3 → AdminRequest := fun client => clientOf (if client = 2 then ["trademarks"] else [])
    let before : List (Fin 3 × AdminAction) :=
      [(0, .setUpEnvironment), (1, .setUpEnvironment), (2, .setUpEnvironment), (0, .runChecks)]
    let now := administration.answerAll sharedSite (requestsOf clients before)
    let answer := fun client => (administration.handle ((clients client).asking .runChecks) now).1
    answer 1 = administration.answerAlone (clients 1) (sharedSite.renumbered now) ∧
      answer 2 = administration.answerAlone (clients 2) sharedSite := by
  intro clients before now answer
  have sound : administration.Sound sharedSite := sound_pageChecks takes_sharedSite.lawful
  have houses : administration.selectsRuntime (clients 1) sharedSite = true := selectsRuntime_clientOf_all
  have static : administration.selectsRuntime (clients 2) sharedSite = false := selectsRuntime_clientOf_trademarks
  have stands : standsAfter (fun client => administration.selectsRuntime (clients client) sharedSite)
      ([(0, .setUpEnvironment)] ++ (1, .setUpEnvironment) :: [(2, .setUpEnvironment), (0, .runChecks)]) = true :=
    standsAfter_of_setUp houses (by simp)
  have removable : administration.Removable sharedSite clients before := .inl takes_sharedSite.bare
  obtain ⟨first, -⟩ := answer_eq_alone administration clients sharedSite before 1 sound removable
    (stands.symm ▸ (.inl houses : administration.Suits (clients 1) sharedSite true))
  obtain ⟨-, second⟩ := answer_eq_alone administration clients sharedSite before 2 sound removable
    (stands.symm ▸ (.inr dropInAside_sharedSite : administration.Suits (clients 2) sharedSite true))
  exact ⟨first, second (.inl static)⟩

/-! ## How clients disturb each other -/

/-- A client with the check that visits pages. -/
def pageClient : AdminRequest := clientOf ["scripts_size"]

/-- Two clients, of whom the first one has the check that visits pages. -/
def pairWith (second : AdminRequest) (isSecond : Bool) : AdminRequest := if isSecond then second else pageClient

/-- A client has its checks run. -/
def running (client : AdminRequest) (world : World) : AdminResponse × World :=
  administration.handle (client.asking .runChecks) world

/-- What the second of two clients is answered after requests of both. -/
def answerAfter (start : World) (second : AdminRequest) (before : List (Bool × AdminAction)) : AdminResponse :=
  (running second (administration.answerAll start (requestsOf (pairWith second) before))).1

/-- Both clients have the environment set up. -/
def bothSetUp : List (Bool × AdminAction) := [(false, .setUpEnvironment), (true, .setUpEnvironment)]

theorem selectsRuntime_pageClient :
    administration.selectsRuntime pageClient sharedSite = true ∧
      administration.selectsRuntime pageClient failingSite = true ∧
      administration.selectsRuntime pageClient staleSite = true ∧
      administration.selectsRuntime pageClient linkedSite = true ∧
      administration.selectsRuntime linkedClient linkedSite = false := by decide +kernel

theorem answerAlone_pageClient (takes : TakesEnvironment start)
    (selects : administration.selectsRuntime pageClient start = true) :
    administration.answerAlone pageClient start = (running pageClient (withEnvironment start)).1 := by
  have answered := answerAlone_eq (sound_pageChecks takes.lawful) pageClient start.residue
  have same := stage_spares World.residue unstored_residue administration start true
  rw [World.withResidue_residue, selects, ← same, World.withResidue_residue] at answered
  rw [answered, ← takes.housed]
  rfl

theorem answerAll_bothSetUp (takes : TakesEnvironment start)
    (selects : administration.selectsRuntime pageClient start = true)
    (second : AdminRequest) :
    administration.answerAll start (requestsOf (pairWith second) bothSetUp) = withEnvironment start := by
  rw [← takes.housed]
  refine answerAll_eq_housed (sound_pageChecks takes.lawful) (.inl takes.bare) (by simp [bothSetUp]) ?_
  simp [bothSetUp, pairWith, standsAfter, standsNext, selects]

/-- The first client has its checks run before the second one. -/
theorem answerAfter_ran (takes : TakesEnvironment start)
    (selects : administration.selectsRuntime pageClient start = true) :
    answerAfter start pageClient (bothSetUp ++ [(false, .runChecks)]) =
      (running pageClient (running pageClient (withEnvironment start)).2).1 := by
  rw [← answerAll_bothSetUp takes selects pageClient]
  rfl

/-- Then it also has the environment removed. -/
theorem answerAfter_removed (takes : TakesEnvironment start)
    (selects : administration.selectsRuntime pageClient start = true) :
    answerAfter start pageClient (bothSetUp ++ [(false, .runChecks), (false, .cleanUpEnvironment)]) =
      (running pageClient (start.withResidue (running pageClient (withEnvironment start)).2.residue)).1 := by
  have removed := takes.bare.cleanUp_setUp takes.lawful
  have left := world_cleanUp_runChecks (sound_pageChecks takes.lawful) selects removed
  have housed : administration.stage start true = withEnvironment start := takes.housed
  rw [housed] at left
  rw [running, running, ← left, ← answerAll_bothSetUp takes selects pageClient]
  rfl

/-- Setting up leaves an environment that is there as it is. -/
theorem world_setUp_staleSite :
    (administration.handle (pageClient.asking .setUpEnvironment) staleSite).2 = staleSite := by
  have ready := world_setUp (sound_pageChecks lawful_staleSite) pageClient staleSite.residue
  have housed : administration.stage staleSite true = staleSite := housed_staleSite
  rwa [selectsRuntime_pageClient.2.2.1, housed, World.withResidue_residue] at ready

/-- The environment that was there at the start is removed after the first client has had its
checks run, and another one is set up for the second client. -/
theorem answerAfter_replaced :
    answerAfter staleSite pageClient [(false, .setUpEnvironment), (false, .runChecks), (false, .cleanUpEnvironment),
        (true, .setUpEnvironment)] =
      (running pageClient ((withEnvironment sharedSite).withResidue (running pageClient staleSite).2.residue)).1 := by
  obtain ⟨shared, -, stale, -⟩ := selectsRuntime_pageClient
  have housed : administration.stage staleSite true = staleSite := housed_staleSite
  have removed : ((cleanUp "wppc_").runIn (administration.stage staleSite true)).2 = sharedSite := by
    rw [housed, cleanUp_staleSite]
  have left : (administration.handle (pageClient.asking .cleanUpEnvironment) (running pageClient staleSite).2).2 =
      sharedSite.withResidue (running pageClient staleSite).2.residue := by
    have cleaned := world_cleanUp_runChecks (sound_pageChecks lawful_staleSite) stale removed
    rw [housed] at cleaned
    exact cleaned
  have again := world_setUp (sound_pageChecks takes_sharedSite.lawful) pageClient
    (running pageClient staleSite).2.residue
  have standing : administration.stage sharedSite true = withEnvironment sharedSite := takes_sharedSite.housed
  rw [shared, standing] at again
  -- on the site itself the requests would be carried out to compare the sides
  have steps (start : World) : answerAfter start pageClient [(false, .setUpEnvironment), (false, .runChecks),
      (false, .cleanUpEnvironment), (true, .setUpEnvironment)] =
        (running pageClient (administration.handle (pageClient.asking .setUpEnvironment)
          (administration.handle (pageClient.asking .cleanUpEnvironment) (running pageClient
            (administration.handle (pageClient.asking .setUpEnvironment) start).2).2).2).2).1 := rfl
  rw [steps, world_setUp_staleSite, left, again]

theorem answerAfter_linkedSite :
    (answerAfter linkedSite linkedClient bothSetUp).success = true ∧
      (administration.answerAlone linkedClient linkedSite).success = false := by
  obtain ⟨-, -, -, linked, static⟩ := selectsRuntime_pageClient
  have housed : administration.stage linkedSite true = withEnvironment linkedSite := takes_linkedSite.housed
  have found := success_linkedClient true
  have missing := success_linkedClient false
  constructor
  · rw [answerAfter, answerAll_bothSetUp takes_linkedSite linked, running]
    rw [housed] at found
    exact found.trans (congrArg Except.isOk read_linkedSite.2)
  · have bare : administration.stage linkedSite false = linkedSite := rfl
    have alone := answerAlone_eq (sound_pageChecks takes_linkedSite.lawful) linkedClient linkedSite.residue
    rw [static, bare, World.withResidue_residue] at alone
    rw [bare, read_linkedSite.1] at missing
    rw [alone]
    exact missing

/-- The last warning about the only file that an answer warns of. -/
def pageWarning (response : AdminResponse) : Option String :=
  match response.data with
  | .object [_, _, (_, .object [(_, .object [(_, .object [(_, .list [_, .object ((_, .text text) :: _)])])])])] =>
      some text
  | _ => none

/-- A client is not warned of the script if another one has had the environment removed.  If another
one has just had its checks run, the pages it is warned about are other ones, and it does not come
upon the insertion that fails.  An environment from before the plugin was active is replaced once
another client has had it removed.  And a client without runtime checks finds a file behind the
link to the drop-in file. -/
theorem clients_disturb_each_other :
    let ran := bothSetUp ++ [(false, .runChecks)]
    (pageWarning (answerAfter sharedSite pageClient
          (bothSetUp ++ [(false, .runChecks), (false, .cleanUpEnvironment)]))).isSome ≠
        (pageWarning (administration.answerAlone pageClient sharedSite)).isSome ∧
      pageWarning (answerAfter sharedSite pageClient ran) ≠
        pageWarning (administration.answerAlone pageClient sharedSite) ∧
      (answerAfter failingSite pageClient ran).success ≠
        (administration.answerAlone pageClient failingSite).success ∧
      (pageWarning (answerAfter staleSite pageClient [(false, .setUpEnvironment), (false, .runChecks),
          (false, .cleanUpEnvironment), (true, .setUpEnvironment)])).isSome ≠
        (pageWarning (administration.answerAlone pageClient staleSite)).isSome ∧
      (answerAfter linkedSite linkedClient bothSetUp).success ≠
        (administration.answerAlone linkedClient linkedSite).success := by
  intro ran
  obtain ⟨shared, failing, -⟩ := selectsRuntime_pageClient
  refine ⟨?removed, ?renumbered, ?failing, ?replaced, ?linked⟩
  case removed =>
    rw [answerAfter_removed takes_sharedSite shared, answerAlone_pageClient takes_sharedSite shared]
    decide +kernel
  case renumbered =>
    rw [answerAfter_ran takes_sharedSite shared, answerAlone_pageClient takes_sharedSite shared]
    decide +kernel
  case failing =>
    rw [answerAfter_ran takes_failingSite failing, answerAlone_pageClient takes_failingSite failing]
    decide +kernel
  case replaced =>
    rw [answerAfter_replaced, answerAlone, world_setUp_staleSite]
    decide +kernel
  case linked =>
    obtain ⟨found, missing⟩ := answerAfter_linkedSite
    rw [found, missing]
    decide

end Administration

end PluginAudit
