import PluginAudit.Proofs.Checks.Modest
import PluginAudit.Proofs.Run.Selection
import PluginAudit.Proofs.Run.Target

/-!
# Runs in worlds that agree

What a run without extensions finds out depends on few parts of the world: which plugins are
installed, where they are, and which checks can run.  In worlds that agree on these, a run that
needs no site comes to the same, if its checks tell the worlds not apart.
-/

namespace PluginAudit

variable {one other : World}

/-! ## The same checks -/

namespace Selection

variable {s : Selection}

theorem firstObstacle?_congr {entries : List (String × Check)}
    (same : ∀ entry ∈ entries, entry.2.obstacle one = entry.2.obstacle other) :
    s.firstObstacle? one entries = s.firstObstacle? other entries := by
  induction entries with
  | nil => rfl
  | cons entry rest inductionHypothesis =>
    have others := inductionHypothesis fun later member => same later (List.mem_cons_of_mem entry member)
    simp only [firstObstacle?, same entry List.mem_cons_self, others]

/-- Which checks are selected depends on which of them can run. -/
theorem select_congr {all : CheckCollection}
    (same : ∀ entry ∈ all.entries, entry.2.obstacle one = entry.2.obstacle other) :
    s.select one all = s.select other all := by
  unfold select
  cases chosen : s.candidates all with
  | error e => rfl
  | ok wanted =>
    have sameWanted : ∀ entry ∈ wanted.entries, entry.2.obstacle one = entry.2.obstacle other :=
      fun entry member => same entry ((candidates_sublist chosen).subset member)
    have filtered : (wanted.filter fun _ check => (check.obstacle one).isNone) =
        wanted.filter fun _ check => (check.obstacle other).isNone := by
      refine congrArg CheckCollection.mk (List.filter_congr fun entry member => ?_)
      exact congrArg Option.isNone (sameWanted entry member)
    simp only [firstObstacle?_congr sameWanted, filtered]

end Selection

namespace Run

variable {r : Run}

/-- Two worlds have the same of what decides about the checks of a run. -/
structure Agree (r : Run) (one other : World) : Prop where
  installed : one.host.installedPlugins one.disk = other.host.installedPlugins other.disk
  places : ∀ basename, contextOf basename one.host = contextOf basename other.host
  obstacles : ∀ entry ∈ r.repository.staticChecks ++ r.repository.runtimeChecks,
    entry.2.obstacle one = entry.2.obstacle other

namespace Agree

theorem symm (agree : r.Agree one other) : r.Agree other one where
  installed := agree.installed.symm
  places basename := (agree.places basename).symm
  obstacles entry member := (agree.obstacles entry member).symm

theorem trans {third : World} (first : r.Agree one other) (second : r.Agree other third) : r.Agree one third where
  installed := first.installed.trans second.installed
  places basename := (first.places basename).trans (second.places basename)
  obstacles entry member := (first.obstacles entry member).trans (second.obstacles entry member)

theorem findTarget (agree : r.Agree one other) (unextended : r.extensions = []) (basename : String) :
    ((r.findTarget basename).runIn one).1 = ((r.findTarget basename).runIn other).1 := by
  have selected (s : Selection) {all : CheckCollection}
      (among : all = r.repository.select (CheckFlags.all.withExperimental true)) :
      s.select one all = s.select other all := by
    refine Selection.select_congr fun entry member => agree.obstacles entry ?_
    rw [among] at member
    exact List.mem_of_mem_filter member
  unfold Run.findTarget
  rw [Act.runIn_eq, Act.runIn_eq, agree.places basename]
  -- without extensions, nothing changes the checks of the repository
  simp only [Audit.checks, unextended, Audit.extend, Act.runIn_bind, Act.runIn_pure, Act.runIn_liftM]
  cases known : Audit.requireCategories (r.repository.select (CheckFlags.all.withExperimental true)) with
  | error e => rfl
  | ok all =>
    dsimp only
    rw [selected _ (Audit.requireCategories_eq known)]
    cases r.selection.select other all <;> rfl

theorem resolve (agree : r.Agree one other) (unextended : r.extensions = []) :
    (r.resolve one).outcome = (r.resolve other).outcome := by
  have named (plugin : String) : basenameOf plugin one = basenameOf plugin other := by
    simp only [basenameOf, agree.installed]
  unfold Run.resolve
  simp only [named]
  split
  · rfl
  · split
    · rfl
    · split
      · rfl
      · rename_i basename _
        have found := agree.findTarget unextended basename
        rcases first : (r.findTarget basename).runIn one with ⟨e | target, after⟩ <;>
          rcases second : (r.findTarget basename).runIn other with ⟨e' | target', after'⟩ <;>
          simp_all

end Agree

end Run

/-! ## The same findings -/

/-- Checks that are just run find the same in two worlds if each of them does so, whatever records
were left before it. -/
theorem Audit.runEntries_congr {entries : List (String × Check)} {findings : Findings}
    (unprepared : ∀ entry ∈ entries, entry.2.preparation = none)
    (spares : ∀ entry ∈ entries, entry.2.Spares World.quiet)
    (outcome : ∀ entry ∈ entries, ∀ {here there : World}, here.quiet = one.quiet → there.quiet = other.quiet →
      (entry.2.run findings.context here).1 = (entry.2.run findings.context there).1) :
    (runEntries findings one entries).1 = (runEntries findings other entries).1 := by
  induction entries generalizing findings one other with
  | nil => rfl
  | cons entry rest inductionHypothesis =>
    obtain ⟨slug, check⟩ := entry
    have plain : check.preparation = none := unprepared _ List.mem_cons_self
    have found := outcome _ List.mem_cons_self rfl rfl
    have left := (spares _ List.mem_cons_self).running findings.context one
    have left' := (spares _ List.mem_cons_self).running findings.context other
    dsimp only at found left left'
    rcases first : check.run findings.context one with ⟨ran, after⟩
    rcases second : check.run findings.context other with ⟨ran', after'⟩
    rw [first, second] at found
    rw [first] at left
    rw [second] at left'
    obtain rfl : ran = ran' := found
    simp only [runEntries, runCheck, plain, runPlain, first, second]
    cases ran.failure with
    | some e => rfl
    | none =>
      refine inductionHypothesis (fun later member => unprepared later (List.mem_cons_of_mem _ member))
        (fun later member => spares later (List.mem_cons_of_mem _ member)) fun later member here there same same' => ?_
      rw [Findings.context_addAll]
      exact outcome later (List.mem_cons_of_mem _ member) (same.trans left) (same'.trans left')

namespace Run

variable {r : Run} {world : World} {target : RunTarget}

/-- Prepare the site for a target, run its checks and undo the preparations. -/
def carryOut (r : Run) (target : RunTarget) : Act Findings := fun world =>
  match (r.prepareSite target).runIn world with
  | (.error e, world) => (.error e, world)
  | (.ok cleanup, world) => (cleanup.guarded (runShared target)).runIn world

theorem runIn_carryOut (r : Run) (target : RunTarget) (world : World) :
    (r.carryOut target).runIn world =
      match (r.prepareSite target).runIn world with
      | (.error e, after) => (.error e, after)
      | (.ok cleanup, after) => (cleanup.guarded (runShared target)).runIn after := rfl

theorem cleanup_execute (fresh : r.cleanup = none) : (r.execute world).run.cleanup = none := by
  rcases prepare_cases r world with ⟨e, -, ran⟩ | ⟨e, -, -, ran⟩ | ⟨target, e, after, -, -, -, ran⟩ |
    ⟨target, cleanup, after, -, -, -, ran⟩ <;> simp only [execute, ran, fresh]
  rfl

/-- Executing a new run is carrying it out for its target, and nothing has to be undone then. -/
theorem execute_new (idle : r.state = .idle) (fresh : r.cleanup = none)
    (resolved : (r.resolve world).outcome = .ok target) :
    (r.execute world).outcome = ((r.carryOut target).runIn (r.resolve world).world).1 ∧
      (r.execute world).run.release (r.execute world).world =
        ((r.carryOut target).runIn (r.resolve world).world).2 := by
  have given : (r.execute world).run.release (r.execute world).world = (r.execute world).world := by
    rw [release, cleanup_execute fresh]
    rfl
  rw [given, runIn_carryOut]
  rcases prepare_cases r world with ⟨e, busy, -⟩ | ⟨e, -, unresolved, -⟩ |
    ⟨target', e, after, -, resolved', made, ran⟩ | ⟨target', cleanup, after, -, resolved', made, ran⟩
  · exact absurd idle busy
  · cases resolved.symm.trans unresolved
  all_goals
    obtain rfl : target = target' := Except.ok.inj (resolved.symm.trans resolved')
    rw [made]
  · simp only [execute, ran, and_self]
  · obtain ⟨target', resolved', -, executed⟩ := execute_of_prepare ran
    obtain rfl : target = target' := Except.ok.inj (resolved.symm.trans resolved')
    exact ⟨(congrArg Prod.fst executed).symm, (congrArg Prod.snd executed).symm⟩

theorem execute_unresolved {e : Error} (idle : r.state = .idle) (fresh : r.cleanup = none)
    (unresolved : (r.resolve world).outcome = .error e) :
    (r.execute world).outcome = .error e ∧
      (r.execute world).run.release (r.execute world).world = (r.resolve world).world := by
  rcases prepare_cases r world with ⟨_, busy, -⟩ | ⟨e', -, unresolved', ran⟩ |
    ⟨_, _, _, -, resolved, -⟩ | ⟨_, _, _, -, resolved, -⟩
  · exact absurd idle busy
  · obtain rfl : e = e' := Except.error.inj (unresolved.symm.trans unresolved')
    simp only [execute, ran, release, fresh, true_and]
    rfl
  all_goals cases resolved.symm.trans unresolved

/-- Runs come to the same in two worlds if their targets are the same and whatever is done for
these does. -/
theorem Agree.execute (agree : r.Agree one other) (unextended : r.extensions = []) (idle : r.state = .idle)
    (fresh : r.cleanup = none)
    (same : ∀ target, (r.resolve one).outcome = .ok target →
      ((r.carryOut target).runIn one).1 = ((r.carryOut target).runIn other).1) :
    (r.execute one).outcome = (r.execute other).outcome := by
  have spares : ∀ extension ∈ r.extensions, extension.Spares id := by simp [unextended]
  have unchanged (world : World) : (r.resolve world).world = world := resolve_spares spares world
  have sameTarget := agree.resolve unextended
  cases resolved : (r.resolve one).outcome with
  | error e =>
    rw [(execute_unresolved idle fresh resolved).1,
      (execute_unresolved idle fresh (sameTarget.symm.trans resolved)).1]
  | ok target =>
    rw [(execute_new idle fresh resolved).1, (execute_new idle fresh (sameTarget.symm.trans resolved)).1, unchanged,
      unchanged]
    exact same target resolved

end Run

end PluginAudit
