import PluginAudit.Administration
import PluginAudit.Proofs.Run.Restoration
import PluginAudit.Proofs.Run.Sparing
import PluginAudit.Proofs.RuntimeEnvironment.RoundTrip

/-!
# Sessions of the administration page

Every request makes a run of its own on the site that the requests before it
left.  A request comes to one of few changes of the world, each of which keeps
the site consistent, and so does every sequence of requests.
-/

namespace PluginAudit

open RuntimeEnvironment

/-- A check that spares the site leaves what is stored under each prefix. -/
theorem Check.LeavesSite.leaves_storageUnder {check : Check} (leavesSite : check.LeavesSite)
    (pre : String) : check.Leaves (World.storageUnder pre) := by
  have sees : ∀ {one another : World}, one.site = another.site →
      one.storageUnder pre = another.storageUnder pre :=
    congrArg fun host : Host => host.storageUnder pre
  refine ⟨leavesSite.spares.coarsen sees, fun host request member => ?_⟩
  rcases leavesSite.requests host request member with ⟨arguments, rfl⟩ | spares
  · exact DemoPosts.request_spares (World.postless_storageUnder pre).unposted arguments
  · exact spares.coarsen sees

namespace Administration

variable {a : Administration} {q : AdminRequest} {world : World}

/-! ## One request -/

def runOf (a : Administration) (q : AdminRequest) (host : Host) : Run :=
  .ofRequest a.repository (q.toRunRequest host) a.settings

/-- What a request can make of the world. -/
inductive Leads (a : Administration) (q : AdminRequest) (world : World) : World → Prop
  | nothing : Leads a q world world
  | setUp : Leads a q world ((setUp a.settings.testingPrefix).runIn world).2
  /-- The checks are run, and the run is given up then. -/
  | run : Leads a q world
      (((a.runOf q world.host).execute world).run.release
        ((a.runOf q world.host).execute world).world)
  | cleanUp : Leads a q world ((cleanUp a.settings.testingPrefix).runIn world).2

/-- Without extensions, finding out the checks to run changes nothing. -/
theorem exists_checksToRun (a : Administration) (q : AdminRequest) (world : World) :
    ∃ outcome run, (a.runOf q world.host).checksToRun world = ⟨outcome, run, world⟩ := by
  have spares : ∀ extension ∈ (a.runOf q world.host).extensions, extension.Spares id :=
    List.forall_mem_nil _
  have same : ((a.runOf q world.host).checksToRun world).world = world :=
    Run.resolve_spares spares world
  rcases found : (a.runOf q world.host).checksToRun world with ⟨outcome, run, after⟩
  obtain rfl : after = world := by simpa [found] using same
  exact ⟨outcome, run, rfl⟩

theorem leads_ifRuntime {change : Act Unit} (done skipped : String)
    (leads : a.Leads q world (change.runIn world).2) :
    a.Leads q world ((ifRuntime (a.runOf q world.host) change done skipped).runIn world).2 := by
  obtain ⟨outcome, run, found⟩ := exists_checksToRun a q world
  unfold ifRuntime
  rw [Act.runIn_eq, found]
  cases outcome with
  | error e => exact .nothing
  | ok checks =>
    dsimp only
    split
    · rcases ran : change.runIn world with ⟨_ | _, after⟩ <;> simpa [ran] using leads
    · exact .nothing

theorem leads_answerChecks : a.Leads q world ((answerChecks (a.runOf q world.host)).runIn world).2 := by
  obtain ⟨outcome, run, found⟩ := exists_checksToRun a q world
  unfold answerChecks
  rw [Act.runIn_eq, found]
  cases outcome with
  | error e => exact .nothing
  | ok checks =>
    dsimp only
    split <;> exact .nothing

theorem leads_answerFindings :
    a.Leads q world ((answerFindings (a.runOf q world.host)).runIn world).2 := by
  have executed : a.Leads q world _ := .run
  unfold answerFindings
  rw [Act.runIn_eq]
  split
  · rename_i ran
    simpa [ran] using executed
  · rename_i ran
    simpa [ran] using executed

theorem leads_dispatch : a.Leads q world ((a.dispatch q).runIn world).2 := by
  unfold dispatch
  rw [Act.runIn_eq]
  split
  · exact .nothing
  · rename_i action named
    dsimp only
    split
    · cases action with
      | setUpEnvironment => exact leads_ifRuntime _ _ .setUp
      | listChecks => exact leads_answerChecks
      | runChecks => exact leads_answerFindings
      | cleanUpEnvironment => exact leads_ifRuntime _ _ .cleanUp
    · exact .nothing

theorem leads_handle (a : Administration) (q : AdminRequest) (world : World) :
    a.Leads q world (a.handle q world).2 :=
  leads_dispatch

theorem handle_eq (a : Administration) (q : AdminRequest) (world : World) :
    a.handle q world =
      (.ofOutcome ((a.dispatch q).runIn world).1, ((a.dispatch q).runIn world).2) := rfl

/-- A request without a known action, or without a nonce for it, is refused and
changes nothing. -/
theorem handle_refused (refused : AdminAction.named? q.action = none ∨
    world.host.acceptsNonce q.nonce AdminAction.nonceAction = false) :
    (a.handle q world).1.success = false ∧ (a.handle q world).2 = world := by
  rw [handle_eq]
  unfold dispatch
  rw [Act.runIn_eq]
  split
  · exact ⟨rfl, rfl⟩
  · rename_i action named
    have notAuthorized : (q.toRunRequest world.host).isPluginCheck = false := by
      simpa [AdminRequest.toRunRequest, AdminRequest.isAuthorized, named] using refused
    simp [notAuthorized, AdminResponse.ofOutcome]

/-! ## Sessions -/

def answerAll (a : Administration) (world : World) (requests : List AdminRequest) : World :=
  requests.foldl (fun world q => (a.handle q world).2) world

section Spares

variable {γ : Type} {view : World → γ}

/-- The run behind a request manages no environment, so it spares what its checks
leave. -/
theorem run_spares (unfiltered : World.Unfiltered view) (unprefixed : World.Unprefixed view)
    (leaving : ∀ entry ∈ a.repository.staticChecks ++ a.repository.runtimeChecks,
      entry.2.Leaves view) (q : AdminRequest) (world : World) :
    let step := (a.runOf q world.host).execute world
    view (step.run.release step.world) = view world := by
  have unmanaged : (q.toRunRequest world.host).managesEnvironment = false := rfl
  have sparing : Run.Sparing view (view world) (a.runOf q world.host) world :=
    .ofRequest leaving (List.forall_mem_nil _) (List.forall_mem_nil _) (by simp [unmanaged]) world
  exact ((Run.cycle_sparing unfiltered unprefixed (view world)).execute sparing).release

theorem answerAll_spares (unfiltered : World.Unfiltered view) (unprefixed : World.Unprefixed view)
    (environment : RuntimeEnvironment.Spares a.settings.testingPrefix view)
    (leaving : ∀ entry ∈ a.repository.staticChecks ++ a.repository.runtimeChecks,
      entry.2.Leaves view) (world : World) (requests : List AdminRequest) :
    view (a.answerAll world requests) = view world := by
  induction requests generalizing world with
  | nil => rfl
  | cons q rest inductionHypothesis =>
    have first : view (a.handle q world).2 = view world := by
      have leads := leads_handle a q world
      generalize (a.handle q world).2 = after at leads ⊢
      cases leads with
      | nothing => rfl
      | setUp => exact environment.setUp world
      | run => exact run_spares unfiltered unprefixed leaving q world
      | cleanUp => exact environment.cleanUp world
    exact (inductionHypothesis _).trans first

end Spares

/-- The tables under a prefix are complete, or there are none. -/
def AllOrNone (pre : String) (h : Host) : Prop :=
  h.tablesUnder pre = [] ∨ ∀ table ∈ Host.coreTablesUnder pre, table ∈ h.tablesUnder pre

/-- What is true of the world after each request of a session. -/
structure Consistent (a : Administration) (state : SiteState) (world : World) : Prop where
  standing : Standing state world
  testing : AllOrNone a.settings.testingPrefix world.host

namespace Consistent

variable {state : SiteState}

theorem setUp (consistent : a.Consistent state world) :
    a.Consistent state ((setUp a.settings.testingPrefix).runIn world).2 where
  standing := standing_setUp consistent.standing a.settings.testingPrefix
  testing := by
    have host := EnvironmentCall.host_perform consistent.standing.lawful
      (.setUp a.settings.testingPrefix)
    simp only [EnvironmentCall.perform, EnvironmentCall.action, EnvironmentCall.hostAfter] at host
    rw [host]
    split
    · by_cases noTables : world.host.tablesUnder a.settings.testingPrefix = []
      · refine .inr fun table core => Host.mem_tablesUnder.mpr ⟨?_, core⟩
        exact (furnished_equipped noTables).tables table core
      · rw [equipped_of_tables noTables]
        exact consistent.testing
    · exact consistent.testing

theorem cleanUp (consistent : a.Consistent state world)
    (other : state.tablePrefix ≠ a.settings.testingPrefix) :
    a.Consistent state ((cleanUp a.settings.testingPrefix).runIn world).2 where
  standing := cleanUp_leads other world consistent.standing
  testing := by
    have host := EnvironmentCall.host_perform consistent.standing.lawful
      (.cleanUp a.settings.testingPrefix)
    simp only [EnvironmentCall.perform, EnvironmentCall.action, EnvironmentCall.hostAfter] at host
    rw [host]
    exact .inl (tablesUnder_stripped world.host)

/-- The run behind a request gives the site back and leaves its tables. -/
theorem run (consistent : a.Consistent state world)
    (other : state.tablePrefix ≠ a.settings.testingPrefix)
    (leaving : ∀ entry ∈ a.repository.staticChecks ++ a.repository.runtimeChecks,
      entry.2.LeavesSite) (q : AdminRequest) :
    let step := (a.runOf q world.host).execute world
    a.Consistent state (step.run.release step.world) := by
  intro step
  obtain ⟨standing, testing⟩ := consistent
  constructor
  -- the prefix in use has to be brought back, whereas no table is touched on the way
  · have inUse : world.host.tablePrefix ≠ a.settings.testingPrefix := by
      rwa [(Host.siteState_eq_iff.mp standing.siteState).1]
    have restorable := Run.Restorable.ofRequest (q.toRunRequest world.host) standing.lawful
      standing.deletes inUse leaving (List.forall_mem_nil _) (List.forall_mem_nil _)
    rw [standing.siteState] at restorable
    exact ((Run.invariant_restorable state).execute restorable).release
  · have leavingStorage : ∀ entry ∈ a.repository.staticChecks ++ a.repository.runtimeChecks,
        entry.2.Leaves (World.storageUnder a.settings.testingPrefix) :=
      fun entry member => (leaving entry member).leaves_storageUnder _
    have same := run_spares (World.unfiltered_storageUnder _) (World.unprefixed_storageUnder _)
      leavingStorage q world
    have tables := congrArg Storage.tables same
    simp only [World.storageUnder, Host.storageUnder] at tables
    rwa [AllOrNone, tables]

theorem answerAll (consistent : a.Consistent state world)
    (other : state.tablePrefix ≠ a.settings.testingPrefix)
    (leaving : ∀ entry ∈ a.repository.staticChecks ++ a.repository.runtimeChecks,
      entry.2.LeavesSite) (requests : List AdminRequest) :
    a.Consistent state (a.answerAll world requests) := by
  induction requests generalizing world with
  | nil => exact consistent
  | cons q rest inductionHypothesis =>
    have first : a.Consistent state (a.handle q world).2 := by
      have leads := leads_handle a q world
      generalize (a.handle q world).2 = after at leads ⊢
      cases leads with
      | nothing => exact consistent
      | setUp => exact consistent.setUp
      | run => exact consistent.run other leaving q
      | cleanUp => exact consistent.cleanUp other
    exact inductionHypothesis first

end Consistent

/-- After every request of a session the site is in the state it started in, what
is stored under other prefixes than the testing prefix is as it was, and under that
one there are all tables or none.  A request without a known action, or without a
nonce for it, is refused and changes nothing. -/
theorem session_consistent (a : Administration) (world : World) (requests : List AdminRequest)
    (lawful : world.host.Lawful) (deletes : world.host.refusesDeletions = false)
    (other : world.host.tablePrefix ≠ a.settings.testingPrefix)
    (noTables : world.host.tablesUnder a.settings.testingPrefix = [])
    (leaving : ∀ entry ∈ a.repository.staticChecks ++ a.repository.runtimeChecks,
      entry.2.LeavesSite) :
    let now := a.answerAll world requests
    now.host.siteState = world.host.siteState ∧
      (∀ pre ≠ a.settings.testingPrefix, now.storageUnder pre = world.storageUnder pre) ∧
      AllOrNone a.settings.testingPrefix now.host ∧
      ∀ q : AdminRequest,
        AdminAction.named? q.action = none ∨
            now.host.acceptsNonce q.nonce AdminAction.nonceAction = false →
          (a.handle q now).1.success = false ∧ (a.handle q now).2 = now := by
  intro now
  have start : a.Consistent world.host.siteState world := ⟨⟨lawful, deletes, rfl⟩, .inl noTables⟩
  obtain ⟨standing, testing⟩ := start.answerAll other leaving requests
  refine ⟨standing.siteState, fun pre different => ?_, testing, fun _ => handle_refused⟩
  exact answerAll_spares (World.unfiltered_storageUnder pre) (World.unprefixed_storageUnder pre)
    (spares_storageUnder different)
    (fun entry member => (leaving entry member).leaves_storageUnder pre) world requests

/-- A session that sets the environment up, is refused and runs the checks of a
plugin. -/
theorem session_consistent_visits :
    let a : Administration := { repository := Rehearsal.visits }
    let world : World :=
      { disk := (Rehearsal.quietSite [["site"], ["site", "wp-content"]]).disk
        host := .simulated ⟨"site"⟩
          { plugins := Rehearsal.busyPlugins
            nonces := [("plugin-check-run-checks", "secret")] } }
    let now := a.answerAll world
      [{ action := "plugin_check_set_up_environment", nonce := "secret", plugin := "foo/foo.php" },
        { action := "plugin_check_run_checks", nonce := "guess", plugin := "foo/foo.php" },
        { action := "plugin_check_run_checks", nonce := "secret", plugin := "foo/foo.php" }]
    now.host.siteState = world.host.siteState ∧
      now.storageUnder "wp_" = world.storageUnder "wp_" ∧ AllOrNone "wppc_" now.host ∧
      (a.handle { action := "plugin_check_tidy_up", nonce := "secret" } now).1.success = false := by
  intro a world now
  obtain ⟨state, others, testing, refused⟩ := session_consistent a world _ (.simulated _ _) rfl
    (by decide) (Host.tablesUnder_fresh _ _ _ (by decide))
    (Rehearsal.forall_visits Rehearsal.visitor_leavesSite)
  exact ⟨state, others "wp_" (by decide), testing, (refused _ (.inl (by decide))).1⟩

end Administration

end PluginAudit
