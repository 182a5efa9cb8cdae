import PluginAudit.Proofs.Preparation.Sparing
import PluginAudit.Proofs.Run.History
import PluginAudit.Proofs.RuntimeEnvironment

/-!
# What a run spares

A part of the world that sees neither filters nor theme directories nor the
prefix in use is spared by a run, from its preparation to its cleanup, if the
checks leave it and the runtime environment spares it where the run manages one.
-/

namespace PluginAudit

variable {γ : Type} {view : World → γ}

namespace Run

variable {r : Run} {parts : List Cleanup}

/-! ## Preparing the site -/

theorem abandon_spares (each : ∀ c ∈ parts, Act.Spares view c.run) (failure : Error) :
    Act.Spares view (abandon parts failure) :=
  fun world => Act.Spares.chain each world

/-- A further part spares with those before it. -/
theorem spares_append {last : Cleanup} (each : ∀ c ∈ parts, Act.Spares view c.run)
    (spares : Act.Spares view last.run) : ∀ c ∈ parts ++ [last], Act.Spares view c.run := by
  intro c member
  rcases List.mem_append.mp member with before | behind
  · exact each c before
  · rw [List.mem_singleton.mp behind]
    exact spares

theorem switchPrefix_spares (unprefixed : World.Unprefixed view)
    (each : ∀ c ∈ parts, Act.Spares view c.run) : Preparation.Spares view (r.switchPrefix parts) where
  making := by
    intro world
    have used := Host.useTablePrefix_spares unprefixed r.settings.testingPrefix world
    unfold switchPrefix
    rw [Act.runIn_eq]
    dsimp only
    split
    · rename_i ran
      exact (abandon_spares each _ _).trans (by simpa [ran] using used)
    · rename_i ran
      simpa [ran] using used
  undoing := by
    intro world after cleanup made
    unfold switchPrefix at made
    rw [Act.runIn_eq] at made
    dsimp only at made
    split at made
    · cases made
    · cases made
      exact .chain (spares_append each (Host.useTablePrefix_spares unprefixed _))

theorem isolate_spares (unfiltered : World.Unfiltered view) (unprefixed : World.Unprefixed view)
    (each : ∀ c ∈ parts, Act.Spares view c.run) (basename : String) :
    Preparation.Spares view (r.isolate basename parts) := by
  have universal := UniversalPreparation.prepare_spares unfiltered basename r.settings.tool
    r.settings.themeDirectory
  have switched {world after : World} {cleanup : Cleanup}
      (ran : (UniversalPreparation.prepare basename r.settings.tool r.settings.themeDirectory).runIn
        world = (.ok cleanup, after)) :
      Preparation.Spares view (r.switchPrefix (parts ++ [cleanup])) :=
    switchPrefix_spares unprefixed (spares_append each (universal.undoing ran))
  constructor
  · intro world
    unfold isolate
    rw [Act.runIn_eq]
    dsimp only
    split
    · rename_i ran
      exact (abandon_spares each _ _).trans (universal.making.of_runIn ran)
    · rename_i ran
      exact ((switched ran).making _).trans (universal.making.of_runIn ran)
  · intro world after cleanup made
    unfold isolate at made
    rw [Act.runIn_eq] at made
    dsimp only at made
    split at made
    · cases made
    · rename_i ran
      exact (switched ran).undoing made

theorem prepareRuntime_spares (unfiltered : World.Unfiltered view) (unprefixed : World.Unprefixed view)
    (environment : r.request.managesEnvironment →
      RuntimeEnvironment.Spares r.settings.testingPrefix view) (basename : String) :
    Preparation.Spares view (r.prepareRuntime basename) := by
  -- only a run that manages an environment has a first part to undo
  by_cases manages : r.request.managesEnvironment
  · have spares := environment manages
    have isolated : Preparation.Spares view (r.isolate basename
        [.of "runtime_environment" (RuntimeEnvironment.cleanUp r.settings.testingPrefix)]) := by
      refine isolate_spares unfiltered unprefixed (fun c member => ?_) basename
      rw [List.mem_singleton.mp member]
      exact spares.cleanUp
    constructor
    · intro world
      unfold prepareRuntime
      rw [Act.runIn_eq]
      simp only [manages, if_true]
      split
      · rename_i ran
        exact (abandon_spares (List.forall_mem_nil _) _ _).trans (spares.setUp.of_runIn ran)
      · rename_i ran
        exact (isolated.making _).trans (spares.setUp.of_runIn ran)
    · intro world after cleanup made
      unfold prepareRuntime at made
      rw [Act.runIn_eq] at made
      simp only [manages, if_true] at made
      split at made
      · cases made
      · exact isolated.undoing made
  · have isolated : Preparation.Spares view (r.isolate basename []) :=
      isolate_spares unfiltered unprefixed (List.forall_mem_nil _) basename
    have same : r.prepareRuntime basename = r.isolate basename [] := by
      funext world
      simp only [prepareRuntime, manages, Bool.false_eq_true, if_false]
      rfl
    rwa [same]

theorem prepareSite_spares (unfiltered : World.Unfiltered view) (unprefixed : World.Unprefixed view)
    (environment : r.request.managesEnvironment →
      RuntimeEnvironment.Spares r.settings.testingPrefix view) (target : RunTarget) :
    Preparation.Spares view (r.prepareSite target) := by
  unfold prepareSite
  split
  · exact prepareRuntime_spares unfiltered unprefixed environment target.basename
  · exact ⟨.pure _, fun made => by cases made; exact .pure _⟩

/-! ## Runs -/

/-- What is true of a run at every moment where a view of the world keeps its
value: what is pending spares the view, as do the checks, and so does the runtime
environment if the run manages one. -/
structure Sparing (view : World → γ) (value : γ) (r : Run) (world : World) : Prop where
  admits : r.Admits (CheckCollection.All (Check.Leaves view))
  extensions : ∀ extension ∈ r.extensions, extension.Spares view
  environment : r.request.managesEnvironment → RuntimeEnvironment.Spares r.settings.testingPrefix view
  pending : ∀ cleanup, r.cleanup = some cleanup → Act.Spares view cleanup.run
  kept : view world = value

namespace Sparing

variable {value : γ} {world : World}

theorem withTarget (sparing : Sparing view value r world) {target : RunTarget}
    (known : target.Known (CheckCollection.All (Check.Leaves view))) :
    Sparing view value { r with target := some target } world :=
  { sparing with admits := sparing.admits.withTarget known }

theorem ofRequest {repository : CheckRepository} {extensions : List Extension}
    (leaving : ∀ entry ∈ repository.staticChecks ++ repository.runtimeChecks, entry.2.Leaves view)
    (keeping : ∀ extension ∈ extensions,
      extension.Keeps (CheckCollection.All (Check.Leaves view)))
    (sparing : ∀ extension ∈ extensions, extension.Spares view) {settings : RunSettings}
    {request : RunRequest}
    (environment : request.managesEnvironment →
      RuntimeEnvironment.Spares settings.testingPrefix view) (world : World) :
    Sparing view (view world) (Run.ofRequest repository request settings extensions) world where
  admits := .ofRequest (CheckCollection.hereditary_all _) leaving keeping request settings
  extensions := sparing
  environment := environment
  pending := nofun
  kept := rfl

theorem resolve (sparing : Sparing view value r world) :
    Sparing view value (r.resolve world).run (r.resolve world).world := by
  have kept := (resolve_spares sparing.extensions world).trans sparing.kept
  rw [run_resolve]
  split
  · rename_i target found
    exact { sparing.withTarget (sparing.admits.known found) with kept }
  · exact { sparing with kept }

/-- Giving a run up spares the view, too. -/
theorem release (sparing : Sparing view value r world) : view (r.release world) = value := by
  refine Eq.trans ?_ sparing.kept
  unfold Run.release
  cases pending : r.cleanup with
  | none => rfl
  | some cleanup => exact sparing.pending cleanup pending world

end Sparing

/-- Preparing, running and cleaning up keep the value of the view. -/
theorem cycle_sparing (unfiltered : World.Unfiltered view) (unprefixed : World.Unprefixed view)
    (value : γ) : Cycle (Sparing view value) where
  prepare {r world} sparing := by
    have resolved := (resolve_spares sparing.extensions world).trans sparing.kept
    rcases prepare_cases r world with ⟨e, -, ran⟩ | ⟨e, -, -, ran⟩ |
      ⟨target, e, after, idle, found, made, ran⟩ | ⟨target, cleanup, after, idle, found, made, ran⟩
    · rw [ran]
      exact sparing
    · rw [ran]
      exact { sparing with kept := resolved }
    all_goals
      have site := prepareSite_spares unfiltered unprefixed sparing.environment target
      have kept := (site.making.of_runIn made).trans resolved
      have known := sparing.admits.known found
      rw [ran]
    · exact { sparing.withTarget known with kept }
    · exact { sparing.withTarget known with
        kept
        admits := (sparing.admits.withTarget known).congr rfl rfl rfl
        pending := by
          rintro _ ⟨⟩
          exact site.undoing made }
  runPrepared {r world} _ sparing := by
    rcases runPrepared_cases r world with ⟨e, ran⟩ | ⟨target, e, after, known, made, ran⟩ |
      ⟨target, findings, after, known, made, ran⟩
    · rw [ran]
      exact sparing
    all_goals
      have checks := runShared_spares (sparing.admits.target target known)
      have kept := (checks.of_runIn made).trans sparing.kept
      rw [ran]
    · exact { sparing with kept }
    · exact { sparing with kept, admits := sparing.admits.congr rfl rfl rfl }
  cleanUp {r world} sparing :=
    { sparing with
      admits := sparing.admits.congr rfl rfl rfl
      pending := nofun
      kept := sparing.release }

/-- Where the runtime environment spares the view in any case, every history of
calls does. -/
theorem invariant_sparing (unfiltered : World.Unfiltered view) (unprefixed : World.Unprefixed view)
    {pre : String} (environment : RuntimeEnvironment.Spares pre view) (value : γ) :
    Invariant fun r world => Sparing view value r world ∧ r.settings.testingPrefix = pre := by
  have cycle := cycle_sparing unfiltered unprefixed value
  -- no step touches the settings, and with them the prefix
  have inherited (r : Run) := invariant_inherited r.settings r.extensions
  refine { prepare := ?prepare, runPrepared := ?runPrepared, cleanUp := ?cleanUp,
           wishes := ?wishes, resolve := ?resolve }
  case prepare =>
    rintro r world ⟨sparing, rfl⟩
    exact ⟨cycle.prepare sparing, by rw [((inherited r).prepare ⟨rfl, rfl⟩).1]⟩
  case runPrepared =>
    rintro r world prepared ⟨sparing, rfl⟩
    exact ⟨cycle.runPrepared prepared sparing, by rw [((inherited r).runPrepared prepared ⟨rfl, rfl⟩).1]⟩
  case cleanUp =>
    rintro r world ⟨sparing, same⟩
    exact ⟨cycle.cleanUp sparing, same⟩
  case wishes =>
    rintro r world overrides request ⟨sparing, rfl⟩
    exact ⟨{ sparing with
      admits := sparing.admits.congr rfl rfl rfl
      environment := fun _ => environment }, rfl⟩
  case resolve =>
    rintro r world ⟨sparing, rfl⟩
    exact ⟨sparing.resolve, by rw [((inherited r).resolve ⟨rfl, rfl⟩).1]⟩

end Run

end PluginAudit
