import PluginAudit.Proofs.Audit
import PluginAudit.Proofs.Run.Shared
import PluginAudit.Run.Call

/-!
# Histories of a run

Every call of a run is put together from few steps, so an invariant that these
steps keep holds after every history of calls.  The first such invariant: the
checks of a target have each property that the checks of the repository have
and that extensions keep.
-/

namespace PluginAudit

variable {γ : Type} {view : World → γ} {property : CheckCollection → Prop}

/-! ## The checks of a target -/

namespace Selection

theorem candidates_sublist {s : Selection} {all wanted : CheckCollection}
    (chosen : s.candidates all = .ok wanted) : wanted.entries.Sublist all.entries := by
  have admitted : (s.admitted all).entries.Sublist all.entries := by
    simp only [Selection.admitted]
    split
    · exact .refl _
    · exact List.filter_sublist
  have included : (((s.admitted all).including s.checks).excluding s.excluded).entries.Sublist
      (s.admitted all).entries := by
    refine List.filter_sublist.trans ?_
    simp only [CheckCollection.including]
    split
    · exact .refl _
    · exact List.filter_sublist
  unfold candidates at chosen
  cases required : (s.admitted all).requiring s.checks with
  | error e => simp [required, Except.map] at chosen
  | ok known =>
    have same : known = s.admitted all := by
      unfold CheckCollection.requiring at required
      split at required
      · cases required
      · exact (Except.ok.inj required).symm
    rw [required, same] at chosen
    rw [← Except.ok.inj chosen]
    dsimp only
    -- with or without categories, only checks that were included are left
    split
    · exact included.trans admitted
    · exact (List.filter_sublist.trans included).trans admitted

theorem select_sublist {s : Selection} {world : World} {all selected : CheckCollection}
    (chosen : s.select world all = .ok selected) : selected.entries.Sublist all.entries := by
  simp only [select] at chosen
  split at chosen
  · cases chosen
  · rename_i wanted isWanted
    split at chosen
    · cases chosen
    · rw [← Except.ok.inj chosen]
      exact List.filter_sublist.trans (candidates_sublist isWanted)

end Selection

/-- The audit of a target knows its checks, which have a property, and the
selected checks are among them. -/
structure RunTarget.Known (property : CheckCollection → Prop) (target : RunTarget) : Prop where
  available : ∃ all, target.audit.available = some all ∧ property all ∧
    target.selected.entries.Sublist all.entries

namespace Run

/-- All checks that a run can come to have a property. -/
structure Admits (property : CheckCollection → Prop) (r : Run) : Prop where
  repository : property (r.repository.select (CheckFlags.all.withExperimental true))
  extensions : ∀ extension ∈ r.extensions, extension.Keeps property
  target : ∀ target, r.target = some target → target.Known property

/-! ## Steps -/

variable {r : Run} {world : World}

/-- Finding out the target stores it and changes nothing else of a run. -/
theorem run_resolve (r : Run) (world : World) :
    (r.resolve world).run =
      match (r.resolve world).outcome with
      | .ok target => { r with target := some target }
      | .error _ => r := by
  unfold resolve
  split
  · rfl
  · cases known : r.target with
    | some target =>
      dsimp only
      rw [← known]
    | none =>
      dsimp only
      split
      · rfl
      · split <;> rfl

theorem resolve_spares (spares : ∀ extension ∈ r.extensions, extension.Spares view)
    (world : World) : view (r.resolve world).world = view world := by
  have found (basename : String) : view ((r.findTarget basename).runIn world).2 = view world := by
    unfold findTarget
    rw [Act.runIn_eq]
    dsimp only
    split
    · rename_i ran
      exact (Audit.checks_spares spares).of_runIn ran
    · rename_i ran
      have kept := (Audit.checks_spares spares).of_runIn ran
      split <;> exact kept
  unfold resolve
  split
  · rfl
  · split
    · rfl
    · split
      · rfl
      · rename_i basename _
        have kept := found basename
        split <;> simp_all

/-- A target that is newly found knows the checks of the repository after all
extensions. -/
theorem Admits.known_of_findTarget (admits : r.Admits property) {basename : String}
    {target : RunTarget} {after : World}
    (ran : (r.findTarget basename).runIn world = (.ok target, after)) : target.Known property := by
  unfold findTarget at ran
  rw [Act.runIn_eq] at ran
  dsimp only at ran
  split at ran
  · cases ran
  · rename_i all audit middle checksRan
    split at ran
    · cases ran
    · rename_i selected isSelected
      obtain ⟨rfl, extended⟩ := Audit.runIn_checks_new rfl checksRan
      simp only [Prod.mk.injEq, Except.ok.injEq] at ran
      obtain ⟨rfl, -⟩ := ran
      exact ⟨all, rfl, Audit.extend_keeps admits.extensions admits.repository extended,
        Selection.select_sublist isSelected⟩

/-- The target that was found out is that of the run, and its checks have the
property that the run admits. -/
theorem Admits.known (admits : r.Admits property) {target : RunTarget}
    (resolved : (r.resolve world).outcome = .ok target) : target.Known property := by
  unfold resolve at resolved
  split at resolved
  · cases resolved
  · split at resolved
    · rename_i known
      exact admits.target _ (by rw [known, Except.ok.inj resolved])
    · split at resolved
      · cases resolved
      · rename_i basename _
        split at resolved
        · cases resolved
        · rename_i found after ran
          cases resolved
          exact admits.known_of_findTarget ran

/-- What preparing comes to: it is refused, the target cannot be found out, the
site cannot be prepared, or the run is prepared. -/
theorem prepare_cases (r : Run) (world : World) :
    (∃ e, r.state ≠ .idle ∧ r.prepare world = ⟨.error e, r, world⟩) ∨
    (∃ e, r.state = .idle ∧ (r.resolve world).outcome = .error e ∧
      r.prepare world = ⟨.error e, r, (r.resolve world).world⟩) ∨
    (∃ target e after, r.state = .idle ∧ (r.resolve world).outcome = .ok target ∧
      (r.prepareSite target).runIn (r.resolve world).world = (.error e, after) ∧
      r.prepare world = ⟨.error e, { r with target := some target }, after⟩) ∨
    ∃ target cleanup after, r.state = .idle ∧ (r.resolve world).outcome = .ok target ∧
      (r.prepareSite target).runIn (r.resolve world).world = (.ok cleanup, after) ∧
      r.prepare world =
        ⟨.ok (), { r with target := some target, cleanup := some cleanup, state := .prepared },
          after⟩ := by
  by_cases idle : r.state = .idle
  · have changed := run_resolve r world
    cases step : r.resolve world with
    | mk outcome run middle =>
      rw [step] at changed
      cases outcome with
      | error e =>
        obtain rfl : run = r := changed
        unfold prepare
        rw [if_neg (by simp [idle]), step]
        exact .inr (.inl ⟨e, idle, rfl, rfl⟩)
      | ok target =>
        obtain rfl : run = { r with target := some target } := changed
        cases made : (r.prepareSite target).runIn middle with
        | mk outcome after =>
          -- preparing the site does not look at the target that the run has stored
          have madeLater :
              (({ r with target := some target } : Run).prepareSite target).runIn middle =
                (outcome, after) := made
          unfold prepare
          rw [if_neg (by simp [idle]), step]
          dsimp only
          rw [madeLater]
          cases outcome with
          | error e => exact .inr (.inr (.inl ⟨target, e, after, idle, rfl, made, rfl⟩))
          | ok cleanup => exact .inr (.inr (.inr ⟨target, cleanup, after, idle, rfl, made, rfl⟩))
  · exact .inl ⟨_, idle, if_pos (by simpa using idle)⟩

/-- What running a prepared run comes to: it is refused, or the checks are run
with their shared preparations. -/
theorem runPrepared_cases (r : Run) (world : World) :
    (∃ e, r.runPrepared world = ⟨.error e, r, world⟩) ∨
    (∃ target e after, r.target = some target ∧
      (runShared target).runIn world = (.error e, after) ∧
      r.runPrepared world = ⟨.error e, r, after⟩) ∨
    ∃ target findings after, r.target = some target ∧
      (runShared target).runIn world = (.ok findings, after) ∧
      r.runPrepared world = ⟨.ok findings, { r with state := .ran }, after⟩ := by
  unfold runPrepared
  split
  · exact .inl ⟨_, rfl⟩
  · split
    · exact .inl ⟨_, rfl⟩
    · rename_i target known
      split
      · rename_i e after ran
        exact .inr (.inl ⟨target, e, after, known, ran, rfl⟩)
      · rename_i findings after ran
        exact .inr (.inr ⟨target, findings, after, known, ran, rfl⟩)

/-- Where a run is prepared, its target was found out and the site could be prepared for
it. -/
theorem exists_of_prepare_ok {r prepared : Run} {world after : World}
    (ran : r.prepare world = ⟨.ok (), prepared, after⟩) :
    ∃ target cleanup, (r.resolve world).outcome = .ok target ∧
      (r.prepareSite target).runIn (r.resolve world).world = (.ok cleanup, after) ∧
      prepared = { r with target := some target, cleanup := some cleanup, state := .prepared } := by
  rcases prepare_cases r world with ⟨e, -, refused⟩ | ⟨e, -, -, refused⟩ |
    ⟨target, e, after, -, -, -, refused⟩ | ⟨target, cleanup, after, -, resolved, made, done⟩
  · cases refused.symm.trans ran
  · cases refused.symm.trans ran
  · cases refused.symm.trans ran
  · cases done.symm.trans ran
    exact ⟨target, cleanup, resolved, made, rfl⟩

/-- A prepared run is in the state that says so. -/
theorem state_prepare {r prepared : Run} {world after : World}
    (ran : r.prepare world = ⟨.ok (), prepared, after⟩) : prepared.state = .prepared := by
  obtain ⟨target, cleanup, -, -, rfl⟩ := exists_of_prepare_ok ran
  rfl

/-- What was confirmed when the target was found out is still confirmed. -/
theorem confirmedPlugin_of_resolve {target : RunTarget}
    (resolved : (r.resolve world).outcome = .ok target) :
    ∃ plugin, r.confirmedPlugin = .ok plugin := by
  unfold resolve at resolved
  split at resolved
  · cases resolved
  · rename_i plugin confirmed
    exact ⟨plugin, confirmed⟩

/-- Once a run is prepared, executing it is running the checks with their shared
preparations, guarded by the cleanup that is pending. -/
theorem execute_of_prepare {ready : Run} {prepared : World}
    (ran : r.prepare world = ⟨.ok (), ready, prepared⟩) :
    ∃ target, (r.resolve world).outcome = .ok target ∧ ready.target = some target ∧
      ((ready.cleanup.getD .noop).guarded (runShared target)).runIn prepared =
        ((r.execute world).outcome, (r.execute world).world) := by
  obtain ⟨target, cleanup, resolved, -, rfl⟩ := exists_of_prepare_ok ran
  refine ⟨target, resolved, rfl, ?_⟩
  obtain ⟨plugin, confirmed⟩ := confirmedPlugin_of_resolve resolved
  -- the stored target, the cleanup and the state have no part in what is confirmed
  have confirmedLater : ({ r with
      target := some target, cleanup := some cleanup, state := .prepared } : Run).confirmedPlugin =
        .ok plugin := confirmed
  rw [Cleanup.runIn_guarded]
  simp only [execute, ran, Run.run, runPrepared, confirmedLater, Run.cleanUp, Option.getD_some]
  rcases (runShared target).runIn prepared with ⟨e | findings, after⟩
  · rfl
  · dsimp only [Option.getD_some]
    rcases cleanup.run.runIn after with ⟨e | _, done⟩ <;> rfl

/-- A run that cannot be prepared is not executed any further. -/
theorem execute_of_prepare_error {e : Error} (failed : (r.prepare world).outcome = .error e) :
    (r.execute world).world = (r.prepare world).world := by
  unfold execute
  split
  · rename_i ran
    rw [ran]
  · rename_i ran
    rw [ran] at failed
    cases failed

/-! ## Invariants -/

/-- A property of runs and worlds that preparing, running and cleaning up keep. -/
structure Cycle (holds : Run → World → Prop) : Prop where
  prepare : ∀ {r world}, holds r world → holds (r.prepare world).run (r.prepare world).world
  runPrepared : ∀ {r world}, r.state = .prepared → holds r world →
    holds (r.runPrepared world).run (r.runPrepared world).world
  cleanUp : ∀ {r world}, holds r world → holds (r.cleanUp world).run (r.cleanUp world).world

/-- A property of runs and worlds that the steps of every call keep. -/
structure Invariant (holds : Run → World → Prop) : Prop extends Cycle holds where
  /-- It does not depend on what is asked for. -/
  wishes : ∀ {r world} (overrides : RunOverrides) (request : RunRequest), holds r world →
    holds { r with overrides, request } world
  resolve : ∀ {r world}, holds r world → holds (r.resolve world).run (r.resolve world).world

variable {holds : Run → World → Prop}

namespace Cycle

theorem run (cycle : Cycle holds) (start : holds r world) :
    holds (r.run world).run (r.run world).world := by
  unfold Run.run
  split
  · have prepared := cycle.prepare start
    split
    · rename_i ran
      simpa [ran] using prepared
    · rename_i ran
      rw [ran] at prepared
      exact cycle.runPrepared (state_prepare ran) prepared
  · rename_i isPrepared
    exact cycle.runPrepared isPrepared start
  · exact start

theorem execute (cycle : Cycle holds) (start : holds r world) :
    holds (r.execute world).run (r.execute world).world := by
  have prepared := cycle.prepare start
  unfold Run.execute
  split
  · rename_i ran
    simpa [ran] using prepared
  · rename_i ran
    rw [ran] at prepared
    exact cycle.cleanUp (cycle.run prepared)

end Cycle

namespace Invariant

/-- Every call keeps an invariant. -/
theorem perform (invariant : Invariant holds) {s : RunCall.Scene} (start : holds s.run s.world)
    (call : RunCall) : holds (call.perform s).2.run (call.perform s).2.world := by
  cases call with
  | setPlugin _ | setChecks _ | setExcluded _ | setCategories _ | setExperimental _
  | setRequest _ => exact invariant.wishes _ _ start
  | checksToRun => exact invariant.resolve start
  | pluginBasename => exact start
  | prepare => exact invariant.prepare start
  | run => exact invariant.run start
  | execute => exact invariant.execute start
  | cleanUp => exact invariant.cleanUp start

/-- An invariant holds after every history of calls. -/
theorem performAll (invariant : Invariant holds) {s : RunCall.Scene}
    (start : holds s.run s.world) (calls : List RunCall) :
    holds (RunCall.performAll s calls).2.run (RunCall.performAll s calls).2.world := by
  induction calls generalizing s with
  | nil => exact start
  | cons call rest inductionHypothesis => exact inductionHypothesis (invariant.perform start call)

end Invariant

/-- What is admitted does not depend on the wishes, the state and the cleanup. -/
theorem Admits.congr {changed : Run} (admits : r.Admits property)
    (repository : changed.repository = r.repository) (extensions : changed.extensions = r.extensions)
    (target : changed.target = r.target) : changed.Admits property where
  repository := repository ▸ admits.repository
  extensions := extensions ▸ admits.extensions
  target := target ▸ admits.target

theorem Admits.withTarget (admits : r.Admits property) {target : RunTarget}
    (known : target.Known property) : ({ r with target := some target } : Run).Admits property where
  repository := admits.repository
  extensions := admits.extensions
  target := by
    rintro _ ⟨⟩
    exact known

/-- Whatever is done with a run, the checks it can come to keep a property. -/
theorem invariant_admits (property : CheckCollection → Prop) :
    Invariant fun r _ => r.Admits property where
  wishes _ _ admits := admits.congr rfl rfl rfl
  resolve {r world} admits := by
    rw [run_resolve]
    split
    · rename_i target resolved
      exact admits.withTarget (admits.known resolved)
    · exact admits
  prepare {r world} admits := by
    rcases prepare_cases r world with ⟨e, -, ran⟩ | ⟨e, -, -, ran⟩ |
      ⟨target, e, after, -, resolved, -, ran⟩ | ⟨target, cleanup, after, -, resolved, -, ran⟩
    · rw [ran]
      exact admits
    · rw [ran]
      exact admits
    · rw [ran]
      exact admits.withTarget (admits.known resolved)
    · rw [ran]
      exact (admits.withTarget (admits.known resolved)).congr rfl rfl rfl
  runPrepared {r world} _ admits := by
    rcases runPrepared_cases r world with ⟨e, ran⟩ | ⟨target, e, after, -, -, ran⟩ |
      ⟨target, findings, after, -, -, ran⟩ <;> rw [ran]
    · exact admits
    · exact admits
    · exact admits.congr rfl rfl rfl
  cleanUp admits := admits.congr rfl rfl rfl

/-- A new run can come to parts of what the repository has. -/
theorem Admits.ofRequest {repository : CheckRepository} {extensions : List Extension}
    (hereditary : CheckCollection.Hereditary property)
    (whole : property ⟨repository.staticChecks ++ repository.runtimeChecks⟩)
    (keeping : ∀ extension ∈ extensions, extension.Keeps property) (request : RunRequest)
    (settings : RunSettings) :
    (Run.ofRequest repository request settings extensions).Admits property where
  repository := hereditary List.filter_sublist whole
  extensions := keeping
  target := nofun

/-- Whatever is done with a new run, the checks it can come to have a property that
those of the repository have. -/
theorem admits_performAll {repository : CheckRepository} {extensions : List Extension}
    (hereditary : CheckCollection.Hereditary property)
    (whole : property ⟨repository.staticChecks ++ repository.runtimeChecks⟩)
    (keeping : ∀ extension ∈ extensions, extension.Keeps property) (request : RunRequest)
    (settings : RunSettings) (world : World) (calls : List RunCall) :
    (RunCall.performAll ⟨Run.ofRequest repository request settings extensions, world⟩
      calls).2.run.Admits property :=
  (invariant_admits property).performAll
    (s := ⟨Run.ofRequest repository request settings extensions, world⟩)
    (Admits.ofRequest hereditary whole keeping request settings) calls

/-- Settings and extensions are those that a run was made with. -/
theorem invariant_inherited (settings : RunSettings) (extensions : List Extension) :
    Invariant fun r _ => r.settings = settings ∧ r.extensions = extensions where
  wishes _ _ inherited := inherited
  resolve {r world} inherited := by
    rw [run_resolve]
    split <;> exact inherited
  prepare {r world} inherited := by
    rcases prepare_cases r world with ⟨e, -, ran⟩ | ⟨e, -, -, ran⟩ |
      ⟨target, e, after, -, -, -, ran⟩ | ⟨target, cleanup, after, -, -, -, ran⟩ <;>
      rw [ran] <;> exact inherited
  runPrepared {r world} _ inherited := by
    rcases runPrepared_cases r world with ⟨e, ran⟩ | ⟨target, e, after, -, -, ran⟩ |
      ⟨target, findings, after, -, -, ran⟩ <;> rw [ran] <;> exact inherited
  cleanUp inherited := inherited

/-- With its checks known, a target runs those that the slugs stand for. -/
theorem runIn_runChecks {target : RunTarget} {all : CheckCollection}
    (available : target.audit.available = some all) (world : World) :
    (runChecks target).runIn world =
      match Audit.runSlugs all [] (.none target.audit.context) world target.selected.slugs with
      | ((findings, none), after) => (.ok findings, after)
      | ((_, some e), after) => (.error e, after) := by
  unfold runChecks Audit.runAll Audit.runInto
  rw [Act.runIn_eq]
  simp only [Audit.runIn_checks_known available]
  rcases Audit.runSlugs all [] _ world _ with ⟨⟨findings, _ | e⟩, after⟩ <;> rfl

/-- Running the checks of a target spares what all its checks spare. -/
theorem runChecks_spares {target : RunTarget}
    (known : target.Known (CheckCollection.All (Check.Spares view))) :
    Act.Spares view (runChecks target) := by
  intro world
  obtain ⟨all, available, spares, -⟩ := known.available
  have kept := Audit.runSlugs_spares spares target.selected.slugs [] (.none target.audit.context) world
  rw [runIn_runChecks available]
  rcases ran : Audit.runSlugs all [] _ world _ with ⟨⟨findings, _ | e⟩, after⟩ <;>
    simpa [ran] using kept

end Run

/-- Running the checks of a target with what they request spares what all checks
leave. -/
theorem Run.runShared_spares {target : RunTarget}
    (known : target.Known (CheckCollection.All (Check.Leaves view))) :
    Act.Spares view (runShared target) := by
  obtain ⟨all, available, leaving, among⟩ := known.available
  have checks : Act.Spares view (runChecks target) :=
    runChecks_spares ⟨all, available, fun entry member => (leaving entry member).spares, among⟩
  intro world
  -- only what a selected check requests is prepared
  have shared : Preparation.Spares view (Shared.prepareAll target.selected) :=
    Shared.prepareAll_spares fun entry selected => (leaving entry (among.subset selected)).requests
  unfold runShared
  rw [Act.runIn_eq]
  split
  · rename_i ran
    exact shared.making.of_runIn ran
  · rename_i ran
    rw [Cleanup.runIn_guarded]
    exact (shared.undoing ran _).trans ((checks _).trans (shared.making.of_runIn ran))

end PluginAudit
