import PluginAudit.Proofs.Preparation.Reversal
import PluginAudit.Proofs.Rehearsal
import PluginAudit.Proofs.Run.History

/-!
# A run gives the site back

Whatever is done with a run and whatever fails on the way, the cleanup that is
pending leads back to the state the site was in when the run was made, and where
none is pending the site is in that state.
-/

namespace PluginAudit

/-- A request that can leave nothing behind: it is one for demo posts, or it
spares the site. -/
def SharedPreparation.Harmless (request : SharedPreparation) : Prop :=
  (∃ arguments, request = DemoPosts.request arguments) ∨ request.Spares World.site

/-- A check that spares the site, apart from harmless requests. -/
structure Check.LeavesSite (check : Check) : Prop where
  spares : check.Spares World.site
  requests : ∀ host, ∀ request ∈ check.sharedPreparations host, request.Harmless

variable {initial state middle : SiteState} {world : World} {pre : String}

theorem SharedPreparation.Harmless.reversible {request : SharedPreparation}
    (harmless : request.Harmless) : Preparation.Reversible request.prepare := by
  rcases harmless with ⟨arguments, rfl⟩ | spares
  · exact DemoPosts.request_reversible arguments
  · exact spares.prepare.reversible

/-! ## The runtime environment -/

namespace RuntimeEnvironment

attribute [local irreducible] Host.coreTablesUnder

theorem siteState_equipped (pre : String) (h : Host) :
    (equipped pre h).siteState = h.siteState ∧ (equipped pre h).runtime = h.runtime := by
  obtain ⟨tables, active, same⟩ := exists_equipped_eq pre h
  rw [same]
  exact ⟨rfl, rfl⟩

theorem siteState_stripped {h : Host} (other : h.tablePrefix ≠ pre) :
    (stripped pre h).siteState = h.siteState ∧ (stripped pre h).runtime = h.runtime := by
  obtain ⟨tables, active, same⟩ := exists_dropTables_eq (h.tablesUnder pre) h
  simp [stripped, same, Host.siteState, other]

/-- A file operation leaves the site standing. -/
theorem standing_of_host {after : World} (standing : Standing state world)
    (same : after.host = world.host) : Standing state after := by
  obtain ⟨lawful, deletes, siteState⟩ := standing
  exact ⟨same ▸ lawful, same ▸ deletes, same ▸ siteState⟩

/-- Setting up, complete or not, changes nothing that has to be given back. -/
theorem standing_setUp (standing : Standing state world) (pre : String) :
    Standing state ((setUp pre).runIn world).2 := by
  by_cases wellFormed : Host.isTablePrefix pre
  · rw [runIn_setUp standing.lawful.tablePrefix wellFormed]
    refine standing_of_host ?_ (host_writeDropIn _)
    obtain ⟨sameState, sameRuntime⟩ := siteState_equipped pre world.host
    exact standing.ofHost (equipped_lawful standing.lawful wellFormed) sameRuntime sameState world.disk
  · obtain ⟨e, refused⟩ := runIn_setUp_refused wellFormed world
    rw [refused]
    exact standing

/-- Cleaning up changes nothing that has to be given back, unless the prefix in
use is the one whose tables are dropped. -/
theorem cleanUp_leads (other : state.tablePrefix ≠ pre) :
    (Cleanup.of "runtime_environment" (cleanUp pre)).Leads state state := by
  intro later standing
  have inUse : later.host.tablePrefix ≠ pre := by
    rwa [← standing.siteState] at other
  rw [Cleanup.run_of, runIn_cleanUp standing.lawful.tablePrefix standing.lawful.sitePrefix]
  refine standing_of_host ?_ (host_removeDropIn _)
  obtain ⟨sameState, sameRuntime⟩ := siteState_stripped inUse
  exact standing.ofHost (stripped_lawful standing.lawful) sameRuntime sameState later.disk

end RuntimeEnvironment

/-! ## Preparing the site -/

namespace Run

variable {r : Run} {parts : List Cleanup}

/-- Giving up leads back as the cleanup of what was prepared does. -/
theorem abandon_reversed (back : (combined parts).Leads state initial)
    (standing : Standing state world) (failure : Error) :
    Reversed initial ((abandon parts failure).runIn world) :=
  back world standing

theorem switchPrefix_reversed (back : (combined parts).Leads state initial)
    (standing : Standing state world) : Reversed initial ((r.switchPrefix parts).runIn world) := by
  unfold switchPrefix
  rw [Act.runIn_eq]
  simp only [Act.runIn_tryHost]
  by_cases wellFormed : Host.isTablePrefix r.settings.testingPrefix
  · rw [RuntimeEnvironment.useTablePrefix_of_isTablePrefix _ wellFormed]
    refine ⟨{ state with tablePrefix := r.settings.testingPrefix }, ⟨?_, standing.deletes, ?_⟩, ?_⟩
    · exact { standing.lawful with tablePrefix := wellFormed }
    · rw [← standing.siteState]
      rfl
    · -- undone first of all, the switch leads back to the prefix in use before
      refine .chain_append back fun later switched => ?_
      rw [Cleanup.run_of, Act.runIn_tryHost,
        RuntimeEnvironment.useTablePrefix_of_isTablePrefix _ standing.lawful.tablePrefix]
      refine ⟨{ switched.lawful with tablePrefix := standing.lawful.tablePrefix },
        switched.deletes, ?_⟩
      have previous := (Host.siteState_eq_iff.mp standing.siteState).1
      have others := (Host.siteState_eq_iff.mp switched.siteState).2
      exact Host.siteState_eq_iff.mpr ⟨previous, others⟩
  · rw [RuntimeEnvironment.useTablePrefix_of_not_isTablePrefix _ wellFormed]
    exact abandon_reversed back standing _

theorem isolate_reversed (back : (combined parts).Leads state initial)
    (standing : Standing state world) (basename : String) :
    Reversed initial ((r.isolate basename parts).runIn world) := by
  have universal := UniversalPreparation.reversible basename r.settings.tool
    r.settings.themeDirectory state world standing
  unfold isolate
  rw [Act.runIn_eq]
  dsimp only
  split
  · rename_i made
    rw [made] at universal
    exact abandon_reversed back universal _
  · rename_i made
    rw [made] at universal
    obtain ⟨changed, isolated, undone⟩ := universal
    exact switchPrefix_reversed (.chain_append back undone) isolated

/-- Preparing the site for runtime checks can be undone, and is undone where it
fails. -/
theorem prepareRuntime_reversed (standing : Standing initial world)
    (other : initial.tablePrefix ≠ r.settings.testingPrefix) (basename : String) :
    Reversed initial ((r.prepareRuntime basename).runIn world) := by
  have start : (combined []).Leads initial initial := .chain_nil _ initial
  unfold prepareRuntime
  rw [Act.runIn_eq]
  split
  · have equipped := RuntimeEnvironment.standing_setUp standing r.settings.testingPrefix
    dsimp only
    split
    · rename_i made
      rw [made] at equipped
      exact abandon_reversed start equipped _
    · rename_i made
      rw [made] at equipped
      exact isolate_reversed (.chain_append start (RuntimeEnvironment.cleanUp_leads other)) equipped
        basename
  · exact isolate_reversed start standing basename

theorem prepareSite_reversed (standing : Standing initial world)
    (other : initial.tablePrefix ≠ r.settings.testingPrefix) (target : RunTarget) :
    Reversed initial ((r.prepareSite target).runIn world) := by
  unfold prepareSite
  split
  · exact prepareRuntime_reversed standing other target.basename
  · exact ⟨initial, standing, .noop initial⟩

end Run

/-! ## Shared preparations -/

/-- Shared preparations can be undone together, and where one of them fails
those before it are undone. -/
theorem Shared.prepareAll_reversed {checks : CheckCollection}
    (reversible : ∀ entry ∈ checks.entries, ∀ host, ∀ request ∈ entry.2.sharedPreparations host,
      Preparation.Reversible request.prepare) (standing : Standing initial world) :
    Reversed initial ((prepareAll checks).runIn world) := by
  have kept := @prepareAll_kept
    (fun made after => ∃ state, Standing state after ∧ (combined made).Leads state initial)
    (Standing initial) checks world
    (fun entry member host request asked =>
      { made := by
          rintro made cleanup before after ⟨state, stood, back⟩ granted
          have first := reversible entry member host request asked state before stood
          rw [granted] at first
          obtain ⟨changed, prepared, undone⟩ := first
          exact ⟨changed, prepared, .chain_append back undone⟩
        failed := by
          rintro made e before after ⟨state, stood, back⟩ refused
          have first := reversible entry member host request asked state before stood
          rw [refused] at first
          exact back _ first })
    ⟨initial, standing, .chain_nil "shared_preparations" initial⟩
  rcases ran : (prepareAll checks).runIn world with ⟨e | cleanup, after⟩ <;> rw [ran] at kept
  · exact kept
  · obtain ⟨made, rfl, reversed⟩ := kept
    exact reversed

/-! ## Runs -/

namespace Run

/-- Running the checks of a target leaves the site standing, whatever breaks. -/
theorem standing_runShared {target : RunTarget}
    (known : target.Known (CheckCollection.All Check.LeavesSite)) (standing : Standing state world) :
    Standing state ((runShared target).runIn world).2 := by
  have spares : Act.Spares World.site (runChecks target) := by
    obtain ⟨all, available, leaving, among⟩ := known.available
    exact runChecks_spares ⟨all, available, fun entry member => (leaving entry member).spares, among⟩
  have shared : Reversed state ((Shared.prepareAll target.selected).runIn world) := by
    obtain ⟨all, -, leaving, among⟩ := known.available
    refine Shared.prepareAll_reversed (fun entry selected host request asked => ?_) standing
    exact ((leaving entry (among.subset selected)).requests host request asked).reversible
  unfold runShared
  rw [Act.runIn_eq]
  split
  · rename_i ran
    rw [ran] at shared
    exact shared
  · rename_i cleanup prepared ran
    rw [ran] at shared
    obtain ⟨changed, sharing, undone⟩ := shared
    rw [Cleanup.runIn_guarded]
    exact undone _ (sharing.spared (spares prepared))

/-- What is true of a run and the site at every moment: if a cleanup is pending,
it leads back to the state the site was in initially, else the site is in that
state. -/
structure Restorable (initial : SiteState) (r : Run) (world : World) : Prop where
  admits : r.Admits (CheckCollection.All Check.LeavesSite)
  extensions : ∀ extension ∈ r.extensions, extension.Spares World.site
  /-- The testing prefix is not in use initially. -/
  testing : initial.tablePrefix ≠ r.settings.testingPrefix
  pending : r.cleanup.isSome ↔ r.state = .prepared ∨ r.state = .ran
  /-- Without a cleanup, nothing is to be undone. -/
  clean : r.cleanup = none → Standing initial world
  /-- A cleanup undoes all there is to undo. -/
  back : ∀ cleanup, r.cleanup = some cleanup → Reversed initial (.ok cleanup, world)

namespace Restorable

theorem none_of_idle (restorable : Restorable initial r world) (idle : r.state = .idle) :
    r.cleanup = none := by
  have pending := restorable.pending
  simpa [idle] using pending

/-- What spares the site leaves a run restorable. -/
theorem spared {after : World} (restorable : Restorable initial r world)
    (same : after.site = world.site) : Restorable initial r after :=
  { restorable with
    clean := fun none => (restorable.clean none).spared same
    back := fun cleanup some => by
      obtain ⟨changed, standing, undone⟩ := restorable.back cleanup some
      exact ⟨changed, standing.spared same, undone⟩ }

theorem withTarget (restorable : Restorable initial r world) {target : RunTarget}
    (known : target.Known (CheckCollection.All Check.LeavesSite)) :
    Restorable initial { r with target := some target } world :=
  { restorable with admits := restorable.admits.withTarget known }

theorem ofRequest {repository : CheckRepository} (request : RunRequest) {settings : RunSettings}
    {extensions : List Extension} (lawful : world.host.Lawful)
    (deletes : world.host.refusesDeletions = false)
    (other : world.host.tablePrefix ≠ settings.testingPrefix)
    (leaving : ∀ entry ∈ repository.staticChecks ++ repository.runtimeChecks, entry.2.LeavesSite)
    (keeping : ∀ extension ∈ extensions,
      extension.Keeps (CheckCollection.All Check.LeavesSite))
    (sparing : ∀ extension ∈ extensions, extension.Spares World.site) :
    Restorable world.host.siteState (Run.ofRequest repository request settings extensions)
      world where
  admits := .ofRequest (CheckCollection.hereditary_all _) leaving keeping request settings
  extensions := sparing
  testing := other
  pending := by simp [Run.ofRequest]
  clean _ := ⟨lawful, deletes, rfl⟩
  back := nofun

/-- Carrying out what is pending gives the site back. -/
theorem release (restorable : Restorable initial r world) :
    Standing initial ((r.cleanup.getD .noop).run.runIn world).2 := by
  cases pending : r.cleanup with
  | none => exact restorable.clean pending
  | some cleanup =>
    obtain ⟨changed, standing, undone⟩ := restorable.back cleanup pending
    exact undone world standing

theorem prepare (restorable : Restorable initial r world) :
    Restorable initial (r.prepare world).run (r.prepare world).world := by
  have resolved := restorable.spared (resolve_spares restorable.extensions world)
  rcases prepare_cases r world with ⟨e, -, ran⟩ | ⟨e, -, -, ran⟩ |
    ⟨target, e, after, idle, found, made, ran⟩ | ⟨target, cleanup, after, idle, found, made, ran⟩
  · rw [ran]
    exact restorable
  · rw [ran]
    exact resolved
  -- from here on the site was prepared, with or without success, from its initial state
  all_goals
    have known := restorable.admits.known found
    have start := resolved.clean (restorable.none_of_idle idle)
    have reversed := prepareSite_reversed start restorable.testing target
    rw [made] at reversed
    rw [ran]
  · exact { restorable.withTarget known with
      clean := fun _ => reversed
      back := fun cleanup some => by simp [restorable.none_of_idle idle] at some }
  · exact { restorable.withTarget known with
      admits := (restorable.admits.withTarget known).congr rfl rfl rfl
      pending := by simp
      clean := nofun
      back := by
        rintro _ ⟨⟩
        exact reversed }

theorem runPrepared (restorable : Restorable initial r world) (prepared : r.state = .prepared) :
    Restorable initial (r.runPrepared world).run (r.runPrepared world).world := by
  -- running the checks changes no state that a cleanup could start from
  have kept {target : RunTarget} (known : r.target = some target) :
      Restorable initial r ((runShared target).runIn world).2 :=
    have leaving := restorable.admits.target target known
    { restorable with
      clean := fun none => standing_runShared leaving (restorable.clean none)
      back := fun cleanup some => by
        obtain ⟨changed, standing, undone⟩ := restorable.back cleanup some
        exact ⟨changed, standing_runShared leaving standing, undone⟩ }
  rcases runPrepared_cases r world with ⟨e, ran⟩ | ⟨target, e, after, known, made, ran⟩ |
    ⟨target, findings, after, known, made, ran⟩
  · rw [ran]
    exact restorable
  all_goals
    have after_kept := kept known
    rw [made] at after_kept
    rw [ran]
  · exact after_kept
  · exact { after_kept with
      admits := after_kept.admits.congr rfl rfl rfl
      pending := by
        have pending := restorable.pending
        simpa [prepared] using pending }

end Restorable

theorem invariant_restorable (initial : SiteState) : Invariant (Restorable initial) where
  wishes _ _ restorable := { restorable with admits := restorable.admits.congr rfl rfl rfl }
  resolve {r world} restorable := by
    have resolved := restorable.spared (resolve_spares restorable.extensions world)
    rw [run_resolve]
    split
    · rename_i target found
      exact resolved.withTarget (restorable.admits.known found)
    · exact resolved
  prepare := Restorable.prepare
  runPrepared prepared restorable := restorable.runPrepared prepared
  cleanUp restorable :=
    { restorable with
      admits := restorable.admits.congr rfl rfl rfl
      pending := by simp [Run.cleanUp]
      clean := fun _ => restorable.release
      back := nofun }

/-- After every history of calls a cleanup is pending exactly while the site is
prepared, an idle run and one that was cleaned up leave the site as it was when
the run was made, and so does a run that is given up, in whatever state. -/
theorem siteState_restored (repository : CheckRepository) (request : RunRequest)
    (settings : RunSettings) (extensions : List Extension) (world : World) (calls : List RunCall)
    (lawful : world.host.Lawful) (deletes : world.host.refusesDeletions = false)
    (other : world.host.tablePrefix ≠ settings.testingPrefix)
    (leaving : ∀ entry ∈ repository.staticChecks ++ repository.runtimeChecks, entry.2.LeavesSite)
    (keeping : ∀ extension ∈ extensions, extension.Keeps (CheckCollection.All Check.LeavesSite))
    (sparing : ∀ extension ∈ extensions, extension.Spares World.site) :
    let s := (RunCall.performAll
      ⟨Run.ofRequest repository request settings extensions, world⟩ calls).2
    (s.run.cleanup.isSome ↔ s.run.state = .prepared ∨ s.run.state = .ran) ∧
      (s.run.state = .idle ∨ s.run.state = .cleanedUp →
        s.world.host.siteState = world.host.siteState) ∧
      (s.run.release s.world).host.siteState = world.host.siteState := by
  have start := Restorable.ofRequest request lawful deletes other leaving keeping sparing
  have restorable := (invariant_restorable world.host.siteState).performAll
    (s := ⟨Run.ofRequest repository request settings extensions, world⟩) start calls
  refine ⟨restorable.pending, fun atRest => ?_, restorable.release.siteState⟩
  refine (restorable.clean ?_).siteState
  have pending := restorable.pending
  rcases atRest with idle | cleanedUp
  · exact restorable.none_of_idle idle
  · simpa [cleanedUp] using pending

end Run

theorem Rehearsal.visitor_leavesSite (slug : String) (mode : ExecutionMode) :
    (visitor slug mode).LeavesSite where
  spares := visitor_spares World.unjournaled_site slug mode
  requests _ _ member := .inl ⟨_, List.mem_singleton.mp member⟩

namespace Run

/-- A run whose extension leaves checks out, and which is prepared, cleaned up
and asked to execute again. -/
theorem siteState_restored_visitors :
    let extensions := [Rehearsal.extension fun checks => .ok (checks.excluding ["files"])]
    let world := Rehearsal.quietSite [["site"], ["site", "wp-content"]]
    let s := (RunCall.performAll
      ⟨Run.ofRequest Rehearsal.visits { Rehearsal.visitRequest with managesEnvironment := true } {}
        extensions, world⟩ [.prepare, .cleanUp, .execute]).2
    (s.run.cleanup.isSome ↔ s.run.state = .prepared ∨ s.run.state = .ran) ∧
      (s.run.state = .idle ∨ s.run.state = .cleanedUp →
        s.world.host.siteState = world.host.siteState) ∧
      (s.run.release s.world).host.siteState = world.host.siteState := by
  refine siteState_restored _ _ _ _ _ _ (.simulated _ _) rfl (by decide)
    (Rehearsal.forall_visits Rehearsal.visitor_leavesSite) ?_ ?_
  · intro extension member
    obtain rfl := List.mem_singleton.mp member
    refine Rehearsal.extension_keeps fun leaving changed => ?_
    rw [← Except.ok.inj changed]
    exact CheckCollection.hereditary_all _ List.filter_sublist leaving
  · intro extension member
    obtain rfl := List.mem_singleton.mp member
    exact Rehearsal.extension_spares World.unjournaled_site _

end Run

end PluginAudit
