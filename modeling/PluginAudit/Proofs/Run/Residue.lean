import PluginAudit.Proofs.Preparation.Reversal
import PluginAudit.Proofs.Residue
import PluginAudit.Proofs.Run.History

/-!
# What a run leaves behind

However a run that manages no environment comes out, and whatever its checks have left on the
site, its cleanup leads back to the world it started in, apart from a residue.
-/

namespace PluginAudit

/-- A cleanup leads from one world back to another, whatever was left behind meanwhile. -/
def Cleanup.Restores (c : Cleanup) (here start : World) : Prop :=
  ∀ later, Intact here later → Intact start (c.run.runIn later).2

/-- What making a preparation comes to: a cleanup that leads back, or the world is intact. -/
def World.Recovers (start : World) : Except Error Cleanup × World → Prop
  | (.ok cleanup, after) => Intact after after ∧ cleanup.Restores after start
  | (.error _, after) => Intact start after

variable {start middle here world after : World}

namespace Cleanup.Restores

theorem noop (world : World) : noop.Restores world world := fun _ intact => intact

/-- What was left behind before the cleanup makes no difference. -/
theorem later {c : Cleanup} (restores : c.Restores here start) (intact : Intact here after) :
    c.Restores after start := fun _ laterIntact => restores _ (intact.trans laterIntact)

theorem chain_nil (label : String) (world : World) : (chain label []).Restores world world :=
  fun _ intact => intact

theorem chain_append {label : String} {parts : List Cleanup} {last : Cleanup}
    (rest : (chain label parts).Restores middle start) (first : last.Restores here middle) :
    (chain label (parts ++ [last])).Restores here start := by
  intro later intact
  rw [world_chain_append]
  exact rest _ (first _ intact)

theorem chain_pair {label : String} {outer inner : Cleanup} (rest : outer.Restores middle start)
    (first : inner.Restores here middle) : (chain label [outer, inner]).Restores here start :=
  show (chain label ([] ++ [outer] ++ [inner])).Restores here start from
    chain_append (chain_append (chain_nil label start) rest) first

end Cleanup.Restores

theorem World.Recovers.trans {made : Except Error Cleanup × World} (recovers : world.Recovers made)
    (intact : Intact start world) : start.Recovers made := by
  obtain ⟨e | cleanup, after⟩ := made
  · exact intact.trans recovers
  · exact ⟨recovers.1, fun later left => intact.trans (recovers.2 later left)⟩

/-! ## Preparations of runtime checks -/

namespace MinimalTheme

theorem undo_themed {h : Host} (older : ∀ entry ∈ h.filters.entries, entry.id < h.filters.nextId)
    (theme : String) (directory : Option Path) (left : Residue) :
    undo (missing directory h) h.filters.nextId ((themed theme (missing directory h) h).withResidue left) =
      h.withResidue left := by
  have remaining := Filters.filter_older older le_rfl
  have remainingToo := Filters.filter_older older (Nat.le_succ h.filters.nextId)
  cases absent : missing directory h with
  | none => simp [undo, themed, Host.withResidue, Filters.add, Filters.remove, remaining, remainingToo]
  | some d =>
    have new : h.hasThemeDirectory d = false := by
      simpa using (Option.filter_eq_some_iff.mp absent).2
    simp [undo, themed, Host.withResidue, Filters.add, Filters.remove, remaining, remainingToo,
      Host.registerThemeDirectory, Host.deregisterThemeDirectory,
      Host.themeDirectories_deregister_register new]

theorem filters_themed (theme : String) (added : Option Path) (h : Host) :
    (themed theme added h).filters.entries = h.filters.entries ++
        [⟨h.filters.nextId, .template, fun _ => .text theme⟩,
          ⟨h.filters.nextId + 1, .stylesheet, fun _ => .text theme⟩] ∧
      (themed theme added h).filters.nextId = h.filters.nextId + 2 := by
  simp [themed, filters_registered, Filters.add]

theorem recovers (theme : String) (directory : Option Path) (sound : Intact world world) :
    world.Recovers ((prepare theme directory).runIn world) := by
  obtain ⟨entries, nextId⟩ := filters_themed theme (missing directory world.host) world.host
  rw [runIn_prepare]
  refine ⟨⟨(World.withResidue_residue _).symm, ?_⟩, fun later intact => ?_⟩
  · dsimp only
    rw [entries, nextId]
    intro entry member
    rcases List.mem_append.mp member with before | new
    · exact (sound.filters entry before).trans_le (Nat.le_add_right _ 2)
    · simp only [List.mem_cons, List.not_mem_nil, or_false] at new
      rcases new with rfl | rfl <;> simp
  · have same : later.host = (themed theme (missing directory world.host) world.host).withResidue later.residue :=
      congrArg World.host intact.same
    have undone := undo_themed sound.filters theme directory later.residue
    rw [← same] at undone
    rw [Cleanup.run_of, Act.runIn_onHost, undone]
    refine .of_eq (?_ : _ = world.withResidue later.residue) ?_
    · rw [intact.same]
      rfl
    · -- the filters of the start are older than the later ones
      have older := intact.filters
      simp only [same, Host.withResidue, entries] at older
      exact fun entry member => older entry (List.mem_append_left _ member)

end MinimalTheme

namespace SinglePlugin

theorem recovers (target : String) (tool : Option String) (sound : Intact world world) :
    world.Recovers ((prepare target tool).runIn world) := by
  obtain ⟨installed, -, -, ran⟩ | ⟨e, ran⟩ := runIn_prepare target tool world <;> rw [ran]
  · refine ⟨⟨(World.withResidue_residue _).symm, ?_⟩, fun later intact => ?_⟩
    · intro entry member
      rcases List.mem_append.mp member with before | new
      · exact (sound.filters entry before).trans (Nat.lt_succ_self _)
      · rw [List.mem_singleton.mp new]
        exact Nat.lt_succ_self _
    · have remaining := Filters.filter_older sound.filters le_rfl
      rw [Cleanup.run_of, Act.runIn_onHost]
      refine .of_eq (?_ : _ = world.withResidue later.residue) ?_
      · have whole := intact.same
        generalize later.residue = left at whole ⊢
        simp [whole, World.withResidue, Host.withResidue, forcing, Filters.add, Filters.remove, remaining]
      · have older := intact.filters
        exact fun entry member => older entry (List.mem_of_mem_filter member)
  · exact sound

end SinglePlugin

theorem UniversalPreparation.recovers (target : String) (tool : Option String) (directory : Option Path)
    (sound : Intact world world) : world.Recovers ((prepare target tool directory).runIn world) := by
  have first := MinimalTheme.recovers MinimalTheme.standard directory sound
  unfold prepare
  rw [Act.runIn_bind]
  rcases themeMade : (MinimalTheme.prepare MinimalTheme.standard directory).runIn world with ⟨e | theme, themed⟩ <;>
    rw [themeMade] at first
  · exact first
  · obtain ⟨themedSound, themeUndone⟩ := first
    have second := SinglePlugin.recovers target tool themedSound
    dsimp only
    rw [Act.runIn_eq]
    rcases pluginMade : (SinglePlugin.prepare target tool).runIn themed with ⟨e | plugin, forced⟩ <;>
      rw [pluginMade] at second
    · -- the theme is taken out again at once
      exact themeUndone _ second
    · obtain ⟨forcedSound, pluginUndone⟩ := second
      exact ⟨forcedSound, .chain_pair themeUndone pluginUndone⟩

/-! ## Preparing the site -/

namespace Run

variable {r : Run} {parts : List Cleanup}

theorem switchPrefix_recovers (back : (combined parts).Restores world start) (sound : Intact world world)
    (inUse : Host.isTablePrefix world.host.tablePrefix) :
    start.Recovers ((r.switchPrefix parts).runIn world) := by
  unfold switchPrefix
  rw [Act.runIn_eq]
  simp only [Act.runIn_tryHost]
  by_cases wellFormed : Host.isTablePrefix r.settings.testingPrefix
  · rw [RuntimeEnvironment.useTablePrefix_of_isTablePrefix _ wellFormed]
    refine ⟨⟨(World.withResidue_residue _).symm, sound.filters⟩, ?_⟩
    -- undone first of all, the switch leads back to the prefix in use before
    refine .chain_append back fun later switched => ?_
    rw [Cleanup.run_of, Act.runIn_tryHost, RuntimeEnvironment.useTablePrefix_of_isTablePrefix _ inUse]
    refine .of_eq (?_ : _ = world.withResidue later.residue) switched.filters
    have whole := switched.same
    generalize later.residue = left at whole ⊢
    rw [whole]
    rfl
  · rw [RuntimeEnvironment.useTablePrefix_of_not_isTablePrefix _ wellFormed]
    exact back world sound

theorem isolate_recovers (back : (combined parts).Restores world start) (sound : Intact world world)
    (inUse : Host.isTablePrefix world.host.tablePrefix) (basename : String) :
    start.Recovers ((r.isolate basename parts).runIn world) := by
  have universal := UniversalPreparation.recovers basename r.settings.tool r.settings.themeDirectory sound
  have unfiltered : World.Unfiltered fun world => world.host.tablePrefix := fun _ _ _ => rfl
  have spares := (UniversalPreparation.prepare_spares unfiltered basename r.settings.tool
    r.settings.themeDirectory).making world
  unfold isolate
  rw [Act.runIn_eq]
  dsimp only
  split
  · rename_i made
    rw [made] at universal
    exact back _ universal
  · rename_i made
    rw [made] at universal spares
    obtain ⟨isolated, undone⟩ := universal
    exact switchPrefix_recovers (.chain_append back undone) isolated (spares ▸ inUse)

theorem prepareSite_recovers (unmanaged : r.request.managesEnvironment = false) (sound : Intact world world)
    (inUse : Host.isTablePrefix world.host.tablePrefix) (target : RunTarget) :
    world.Recovers ((r.prepareSite target).runIn world) := by
  unfold prepareSite
  split
  · unfold prepareRuntime
    rw [Act.runIn_eq, if_neg (by simp [unmanaged])]
    exact isolate_recovers (.chain_nil _ world) sound inUse target.basename
  · exact ⟨sound, .noop world⟩

/-! ## Runs -/

/-- What is true of a run that manages no environment and of the world at every moment: a cleanup
that is pending leads back to the start, and without one the world is intact. -/
structure Returning (start : World) (r : Run) (world : World) : Prop where
  admits : r.Admits (CheckCollection.All (Check.Leaves World.premises))
  extensions : ∀ extension ∈ r.extensions, extension.Spares World.premises
  unmanaged : r.request.managesEnvironment = false
  inUse : Host.isTablePrefix start.host.tablePrefix
  idle : r.state = .idle → r.cleanup = none
  clean : r.cleanup = none → Intact start world
  back : ∀ cleanup, r.cleanup = some cleanup → start.Recovers (.ok cleanup, world)

namespace Returning

theorem ofRequest {repository : CheckRepository} {request : RunRequest} {settings : RunSettings}
    (leaving : ∀ entry ∈ repository.staticChecks ++ repository.runtimeChecks, entry.2.Leaves World.premises)
    (unmanaged : request.managesEnvironment = false) (inUse : Host.isTablePrefix start.host.tablePrefix)
    (intact : Intact start world) : Returning start (Run.ofRequest repository request settings []) world where
  admits := .ofRequest (CheckCollection.hereditary_all _) leaving (List.forall_mem_nil _) request settings
  extensions := List.forall_mem_nil _
  unmanaged := unmanaged
  inUse := inUse
  idle _ := rfl
  clean _ := intact
  back := nofun

/-- Giving the run up leads back in any state of it. -/
theorem release (returning : Returning start r world) : Intact start (r.release world) := by
  show Intact start ((r.cleanup.getD .noop).run.runIn world).2
  cases pending : r.cleanup with
  | none => exact returning.clean pending
  | some cleanup =>
    obtain ⟨intact, restores⟩ := returning.back cleanup pending
    exact restores world intact

theorem prepare (returning : Returning start r world) :
    Returning start (r.prepare world).run (r.prepare world).world := by
  have resolved := resolve_spares returning.extensions world
  rcases prepare_cases r world with ⟨e, -, ran⟩ | ⟨e, idle, -, ran⟩ |
    ⟨target, e, after, idle, found, made, ran⟩ | ⟨target, cleanup, after, idle, found, made, ran⟩
  · rw [ran]
    exact returning
  · rw [ran]
    have none := returning.idle idle
    exact { returning with
      clean := fun none => (returning.clean none).spared resolved
      back := by simp [none] }
  all_goals
    have none := returning.idle idle
    have known := returning.admits.known found
    have intact := (returning.clean none).spared resolved
    have inUse : Host.isTablePrefix (r.resolve world).world.host.tablePrefix := by
      rw [intact.same]
      exact returning.inUse
    have recovers := (prepareSite_recovers returning.unmanaged intact.self inUse target).trans intact
    rw [made] at recovers
    rw [ran]
  · exact { returning with
      admits := returning.admits.withTarget known
      clean := fun _ => recovers
      back := by simp [none] }
  · exact { returning with
      admits := (returning.admits.withTarget known).congr rfl rfl rfl
      idle := nofun
      clean := nofun
      back := by
        rintro _ ⟨⟩
        exact recovers }

theorem runPrepared (returning : Returning start r world) :
    Returning start (r.runPrepared world).run (r.runPrepared world).world := by
  -- what the checks leave behind takes part in no cleanup
  have kept {target : RunTarget} (known : r.target = some target) :
      Returning start r ((runShared target).runIn world).2 :=
    have spared := runShared_spares (returning.admits.target target known) world
    { returning with
      clean := fun none => (returning.clean none).spared spared
      back := fun cleanup some => by
        obtain ⟨intact, restores⟩ := returning.back cleanup some
        exact ⟨(intact.spared spared).self, restores.later (intact.spared spared)⟩ }
  rcases runPrepared_cases r world with ⟨e, ran⟩ | ⟨target, e, after, known, made, ran⟩ |
    ⟨target, findings, after, known, made, ran⟩
  · rw [ran]
    exact returning
  all_goals
    have after_kept := kept known
    rw [made] at after_kept
    rw [ran]
  · exact after_kept
  · exact { after_kept with
      admits := after_kept.admits.congr rfl rfl rfl
      idle := nofun }

end Returning

theorem cycle_returning (start : World) : Cycle (Returning start) where
  prepare := Returning.prepare
  runPrepared _ returning := returning.runPrepared
  cleanUp returning :=
    { returning with
      admits := returning.admits.congr rfl rfl rfl
      idle := nofun
      clean := fun _ => returning.release
      back := nofun }

end Run

end PluginAudit
