import Mathlib.Logic.Relation
import PluginAudit.Proofs.Run.Lifecycle

/-!
# Where the target of a run comes from

The first call that asks for the plugin and the checks of a run finds them out, and
every later call is about what was found then.  `Finds` says what is found in a
world, apart from the calls that lead there, and `Scene.Origin` at which scene of a
history it was found.
-/

namespace PluginAudit

open Relation

/-! ## Histories -/

namespace RunCall

/-- Whether a call asks for the plugin and its checks. -/
def needsTarget : RunCall → Bool
  | checksToRun | prepare | run | execute => true
  | _ => false

/-- A call is carried out, or somebody else changes the world.  An execution during which
the request changes is its steps as calls of their own. -/
inductive Follows : Scene → Scene → Prop
  | call (s : Scene) (call : RunCall) : Follows s (call.perform s).2
  | elsewhere (s : Scene) (world : World) : Follows s { s with world }

abbrev Leads : Scene → Scene → Prop := ReflTransGen Follows

theorem leads_performAll (s : Scene) (calls : List RunCall) : Leads s (performAll s calls).2 := by
  induction calls generalizing s with
  | nil => exact .refl
  | cons call rest inductionHypothesis =>
    exact .head (.call s call) (inductionHypothesis (call.perform s).2)

/-- The scene at which a target that is known later was found. -/
structure Scene.Origin (start s : Scene) (target : RunTarget) (origin : Scene) : Prop where
  reached : Leads start origin
  unknown : origin.run.target = none
  found : ∃ next, Follows origin next ∧ next.run.target = some target ∧ Leads next s

end RunCall

namespace RunAnswer

def succeeds : RunAnswer → Bool
  | failure _ => false
  | _ => true

/-- An answer comes from the checks of a target and from their run on its plugin. -/
def IsAbout (target : RunTarget) : RunAnswer → Prop
  | done => True
  | checks slugs => slugs = target.selected.slugs
  | basename name => name = target.basename
  | findings found => found.context = target.audit.context ∧
      ∃ before after, (Run.runShared target).runIn before = (.ok found, after)
  | failure _ => False

end RunAnswer

/-! ## The plugin that findings are about -/

namespace Audit

theorem context_runCheck (slug : String) (check : Check) (findings : Findings) (world : World) :
    (runCheck slug check findings world).1.1.context = findings.context := by
  obtain ⟨_, _, _, _, _, _, ran⟩ := runCheck_attempt slug check findings world
  rw [ran]
  exact Findings.context_addAll _ _

theorem context_runSlugs (checks : CheckCollection) (slugs seen : List String) (findings : Findings)
    (world : World) :
    (runSlugs checks seen findings world slugs).1.1.context = findings.context := by
  induction slugs generalizing seen findings world with
  | nil => rfl
  | cons slug rest inductionHypothesis =>
    simp only [runSlugs]
    split
    · exact inductionHypothesis seen findings world
    · split
      · exact inductionHypothesis (slug :: seen) findings world
      · rename_i check _
        have kept := context_runCheck slug check findings world
        split
        · rename_i ran
          rwa [ran] at kept
        · rename_i ran
          rw [ran] at kept
          rw [inductionHypothesis, kept]

theorem context_runAll (audit : Audit) (slugs : List String) (world : World) :
    (audit.runAll slugs world).1.findings.context = audit.context := by
  unfold runAll runInto
  rcases audit.checks.runIn world with ⟨e | ⟨all, known⟩, middle⟩
  · rfl
  · exact context_runSlugs all slugs [] (.none audit.context) middle

end Audit

namespace Run

variable {r : Run} {world after : World} {target : RunTarget} {found : Findings}

theorem context_runChecks (ran : (runChecks target).runIn world = (.ok found, after)) :
    found.context = target.audit.context := by
  have kept := target.audit.context_runAll target.selected.slugs world
  unfold runChecks at ran
  rw [Act.runIn_eq] at ran
  split at ran
  · cases ran
  · rename_i outcome
    rw [outcome] at kept
    cases ran
    exact kept

/-- The findings of a run are about the plugin of its target. -/
theorem context_runShared (ran : (runShared target).runIn world = (.ok found, after)) :
    found.context = target.audit.context := by
  unfold runShared at ran
  rw [Act.runIn_eq] at ran
  split at ran
  · cases ran
  · rename_i cleanup middle _
    rw [Cleanup.runIn_guarded] at ran
    rcases checked : (runChecks target).runIn middle with ⟨e | findings, later⟩
    · simp [checked] at ran
    · rw [checked] at ran
      have kept := context_runChecks checked
      rcases undone : cleanup.run.runIn later with ⟨e | _, last⟩ <;> simp_all

/-! ## What is found -/

/-- What a run without target finds out about a plugin in a world. -/
structure Finds (r : Run) (world : World) (plugin : String) (target : RunTarget) : Prop where
  basename : basenameOf plugin world = .ok target.basename
  context : target.audit.context = contextOf target.basename world.host
  selected : ∃ all after,
    (Audit.extend r.extensions (r.repository.select (CheckFlags.all.withExperimental true))).runIn
        world = (.ok all, after) ∧
      target.audit.available = some all ∧ r.selection.select after all = .ok target.selected

theorem finds_of_resolve (unknown : r.target = none)
    (resolved : (r.resolve world).outcome = .ok target) :
    ∃ plugin, r.confirmedPlugin = .ok plugin ∧ r.Finds world plugin target := by
  unfold resolve at resolved
  rw [unknown] at resolved
  split at resolved
  · cases resolved
  · rename_i plugin confirmed
    refine ⟨plugin, confirmed, ?_⟩
    dsimp only at resolved
    split at resolved
    · cases resolved
    · rename_i basename named
      split at resolved
      · cases resolved
      · rename_i found later ran
        cases resolved
        unfold findTarget at ran
        rw [Act.runIn_eq] at ran
        dsimp only at ran
        split at ran
        · cases ran
        · rename_i all audit middle checksRan
          obtain ⟨rfl, extended⟩ := Audit.runIn_checks_new rfl checksRan
          split at ran
          · cases ran
          · rename_i selected isSelected
            simp only [Prod.mk.injEq, Except.ok.injEq] at ran
            obtain ⟨rfl, -⟩ := ran
            exact ⟨named, by simp only, all, middle, extended, rfl, isSelected⟩

/-- What is known is given again. -/
theorem eq_of_resolve {known : RunTarget} (isKnown : r.target = some known)
    (resolved : (r.resolve world).outcome = .ok target) : target = known := by
  unfold resolve at resolved
  rw [isKnown] at resolved
  split at resolved
  · cases resolved
  · exact (Except.ok.inj resolved).symm

/-! ## What the steps do to the target -/

theorem target_resolve (resolved : (r.resolve world).outcome = .ok target) :
    (r.resolve world).run.target = some target := by
  rw [run_resolve, resolved]

/-- Preparing finds out the target, unless it is refused. -/
theorem target_prepare (r : Run) (world : World) :
    (r.prepare world).run.target = r.target ∨
      ∃ target, (r.resolve world).outcome = .ok target ∧
        (r.prepare world).run.target = some target := by
  rcases prepare_cases r world with ⟨e, -, ran⟩ | ⟨e, -, -, ran⟩ |
    ⟨target, e, after, -, resolved, -, ran⟩ | ⟨target, cleanup, after, -, resolved, -, ran⟩
  · exact .inl (by rw [ran])
  · exact .inl (by rw [ran])
  · exact .inr ⟨target, resolved, by rw [ran]⟩
  · exact .inr ⟨target, resolved, by rw [ran]⟩

theorem target_runPrepared (r : Run) (world : World) :
    (r.runPrepared world).run.target = r.target := by
  rcases runPrepared_cases r world with ⟨e, ran⟩ | ⟨target, e, after, -, -, ran⟩ |
    ⟨target, findings, after, -, -, ran⟩ <;> rw [ran]

theorem target_run (r : Run) (world : World) :
    (r.run world).run.target = r.target ∨
      (r.run world).run.target = (r.prepare world).run.target := by
  unfold Run.run
  split
  · refine .inr ?_
    split
    · rename_i ran
      rw [ran]
    · rename_i ran
      rw [ran, target_runPrepared]
  · exact .inl (target_runPrepared r world)
  · exact .inl rfl

theorem target_execute (r : Run) (world : World) :
    (r.execute world).run.target = (r.prepare world).run.target := by
  unfold execute
  split
  · rename_i ran
    rw [ran]
  · rename_i ready prepared ran
    rw [ran]
    -- a run that is ready is not prepared again
    simp only [cleanUp, Run.run, state_prepare ran, target_runPrepared]

/-- What is not confirmed has no target. -/
theorem resolve_of_refused {e : Error} (refused : r.confirmedPlugin = .error e) :
    r.resolve world = ⟨.error e, r, world⟩ := by
  simp only [resolve, refused]

theorem prepare_of_refused {e : Error} (refused : r.confirmedPlugin = .error e)
    (idle : r.state = .idle) : r.prepare world = ⟨.error e, r, world⟩ := by
  simp [prepare, idle, resolve_of_refused refused]

/-- A run that is executed up to its findings is about its target. -/
theorem exists_target_of_execute (executed : (r.execute world).outcome = .ok found) :
    ∃ target, (r.execute world).run.target = some target ∧
      (RunAnswer.findings found).IsAbout target ∧ ∃ plugin, r.confirmedPlugin = .ok plugin := by
  rcases prepared : r.prepare world with ⟨e | _, ready, middle⟩
  · simp [execute, prepared] at executed
  · obtain ⟨target, resolved, known, ran⟩ := execute_of_prepare prepared
    refine ⟨target, by rw [target_execute, prepared, known], ?_, confirmedPlugin_of_resolve resolved⟩
    rw [Cleanup.runIn_guarded, executed] at ran
    rcases shared : (runShared target).runIn middle with ⟨e | findings, after⟩
    · simp [shared] at ran
    · have same : findings = found := by
        rw [shared] at ran
        dsimp only at ran
        split at ran <;> simp_all
      rw [same] at shared
      exact ⟨context_runShared shared, middle, after, shared⟩

theorem exists_target_of_runPrepared (ran : (r.runPrepared world).outcome = .ok found) :
    ∃ target, (r.runPrepared world).run.target = some target ∧
      (RunAnswer.findings found).IsAbout target := by
  rcases runPrepared_cases r world with ⟨e, done⟩ | ⟨target, e, after, -, -, done⟩ |
    ⟨target, findings, after, known, shared, done⟩ <;> rw [done] at ran
  · cases ran
  · cases ran
  · obtain rfl : findings = found := Except.ok.inj ran
    exact ⟨target, by rw [target_runPrepared, known], context_runShared shared, world, after, shared⟩

theorem confirmedPlugin_of_prepare {ready : Run} (ran : r.prepare world = ⟨.ok (), ready, after⟩) :
    ∃ plugin, r.confirmedPlugin = .ok plugin := by
  obtain ⟨target, resolved, -⟩ := execute_of_prepare ran
  exact confirmedPlugin_of_resolve resolved

theorem confirmedPlugin_of_runPrepared (ran : (r.runPrepared world).outcome = .ok found) :
    ∃ plugin, r.confirmedPlugin = .ok plugin := by
  unfold runPrepared at ran
  split at ran
  · cases ran
  · rename_i plugin confirmed
    exact ⟨plugin, confirmed⟩

theorem exists_target_of_run (ran : (r.run world).outcome = .ok found) :
    ∃ target, (r.run world).run.target = some target ∧
      (RunAnswer.findings found).IsAbout target ∧ ∃ plugin, r.confirmedPlugin = .ok plugin := by
  unfold Run.run at ran ⊢
  cases state : r.state with
  | idle =>
    rcases prepared : r.prepare world with ⟨e | _, ready, middle⟩
    · simp [state, prepared] at ran
    · simp only [state, prepared] at ran ⊢
      obtain ⟨target, known, about⟩ := exists_target_of_runPrepared ran
      exact ⟨target, known, about, confirmedPlugin_of_prepare prepared⟩
  | prepared =>
    simp only [state] at ran ⊢
    obtain ⟨target, known, about⟩ := exists_target_of_runPrepared ran
    exact ⟨target, known, about, confirmedPlugin_of_runPrepared ran⟩
  | ran | cleanedUp => simp [state] at ran

end Run

/-! ## What calls do to the target -/

namespace RunCall

open Run

variable {s : Scene} {call : RunCall} {target : RunTarget}

/-- A call leaves the target as it is, or it is the one that finds it out. -/
theorem target_perform (s : Scene) (call : RunCall) :
    (call.perform s).2.run.target = s.run.target ∨
      ∃ target, (s.run.resolve s.world).outcome = .ok target ∧
        (call.perform s).2.run.target = some target := by
  cases call with
  | setPlugin _ | setChecks _ | setExcluded _ | setCategories _ | setExperimental _
  | setRequest _ | pluginBasename | cleanUp => exact .inl rfl
  | checksToRun =>
    change (s.run.resolve s.world).run.target = _ ∨ ∃ target, _ ∧ (s.run.resolve s.world).run.target = _
    rw [run_resolve]
    cases (s.run.resolve s.world).outcome with
    | error e => exact .inl rfl
    | ok target => exact .inr ⟨target, rfl, rfl⟩
  | prepare => exact target_prepare s.run s.world
  | run =>
    rcases target_run s.run s.world with kept | prepared
    · exact .inl kept
    · exact (target_prepare s.run s.world).imp prepared.trans
        fun ⟨target, resolved, known⟩ => ⟨target, resolved, prepared.trans known⟩
  | execute =>
    have prepared := target_execute s.run s.world
    exact (target_prepare s.run s.world).imp prepared.trans
      fun ⟨target, resolved, known⟩ => ⟨target, resolved, prepared.trans known⟩

/-- A target is never given up for another. -/
theorem target_perform_known (known : s.run.target = some target) (call : RunCall) :
    (call.perform s).2.run.target = some target := by
  rcases target_perform s call with kept | ⟨found, resolved, isFound⟩
  · exact kept.trans known
  · rw [isFound, eq_of_resolve known resolved]

/-- A step whose answer is no failure has a value. -/
theorem exists_value_of_succeeds {α : Type} {answer : α → RunAnswer} {step : RunStep α}
    (succeeds : (after answer step).1.succeeds) :
    ∃ value, step.outcome = .ok value ∧ (after answer step).1 = answer value := by
  unfold after at succeeds ⊢
  cases outcome : step.outcome with
  | error e => simp [outcome, RunAnswer.ofOutcome, RunAnswer.succeeds] at succeeds
  | ok value => exact ⟨value, rfl, rfl⟩

/-- A call that needs the target and succeeds is about the target known from then
on, and the plugin was confirmed for it. -/
theorem exists_target_of_succeeds (needs : call.needsTarget) (succeeds : (call.perform s).1.succeeds) :
    ∃ target, (call.perform s).2.run.target = some target ∧ (call.perform s).1.IsAbout target ∧
      ∃ plugin, s.run.confirmedPlugin = .ok plugin := by
  cases call with
  | setPlugin _ | setChecks _ | setExcluded _ | setCategories _ | setExperimental _
  | setRequest _ | pluginBasename | cleanUp => cases needs
  | checksToRun =>
    obtain ⟨selected, outcome, answered⟩ := exists_value_of_succeeds succeeds
    obtain ⟨target, resolved, rfl⟩ : ∃ target, (s.run.resolve s.world).outcome = .ok target ∧
        target.selected = selected := by
      simp only [Run.checksToRun] at outcome
      cases resolved : (s.run.resolve s.world).outcome with
      | error e => simp [resolved, Except.map] at outcome
      | ok target => exact ⟨target, rfl, by simpa [resolved, Except.map] using outcome⟩
    refine ⟨target, target_resolve resolved, ?_, confirmedPlugin_of_resolve resolved⟩
    rw [perform, answered, RunAnswer.IsAbout]
  | prepare =>
    obtain ⟨_, outcome, answered⟩ := exists_value_of_succeeds succeeds
    rcases ran : s.run.prepare s.world with ⟨e | _, ready, middle⟩
    · simp [ran] at outcome
    · obtain ⟨target, resolved, known, -⟩ := execute_of_prepare ran
      refine ⟨target, ?_, ?_, confirmedPlugin_of_resolve resolved⟩
      · rw [perform, RunCall.after, ran, known]
      · rw [perform, answered]
        trivial
  | run =>
    obtain ⟨found, outcome, answered⟩ := exists_value_of_succeeds succeeds
    obtain ⟨target, known, about, confirmed⟩ := exists_target_of_run outcome
    exact ⟨target, known, by rwa [perform, answered], confirmed⟩
  | execute =>
    obtain ⟨found, outcome, answered⟩ := exists_value_of_succeeds succeeds
    obtain ⟨target, known, about, confirmed⟩ := exists_target_of_execute outcome
    exact ⟨target, known, by rwa [perform, answered], confirmed⟩

/-! ## The origin of the target -/

/-- What is known in a scene was found at an earlier one. -/
theorem exists_origin {start : Scene} (fresh : start.run.target = none) (leads : Leads start s)
    (known : s.run.target = some target) :
    ∃ origin plugin, Scene.Origin start s target origin ∧
      origin.run.confirmedPlugin = .ok plugin ∧ origin.run.Finds origin.world plugin target := by
  induction leads with
  | refl => simp [fresh] at known
  | tail before step inductionHypothesis =>
    rename_i middle last
    -- a target that was known before is that of the earlier scene
    have earlier (isKnown : middle.run.target = some target) :
        ∃ origin plugin, Scene.Origin start last target origin ∧
          origin.run.confirmedPlugin = .ok plugin ∧
          origin.run.Finds origin.world plugin target := by
      obtain ⟨origin, plugin, at_, confirmed, finds⟩ := inductionHypothesis isKnown
      obtain ⟨next, follows, isFound, later⟩ := at_.found
      exact ⟨origin, plugin, ⟨at_.reached, at_.unknown, next, follows, isFound, later.tail step⟩,
        confirmed, finds⟩
    cases step with
    | elsewhere world => exact earlier known
    | call call =>
      rcases target_perform middle call with kept | ⟨found, resolved, isFound⟩
      · exact earlier (kept ▸ known)
      · obtain rfl : found = target := by simpa [isFound] using known
        cases unknown : middle.run.target with
        | some other => exact earlier (by rw [unknown, eq_of_resolve unknown resolved])
        | none =>
          obtain ⟨plugin, confirmed, finds⟩ := finds_of_resolve unknown resolved
          exact ⟨middle, plugin,
            ⟨before, unknown, _, .call middle call, known, .refl⟩, confirmed, finds⟩

end RunCall

end PluginAudit
